import Mathlib.Data.List.Forall2
import SqlWeave.Proofs.Spelling.SelectList
import SqlWeave.Proofs.Token.Standing
import SqlWeave.Proofs.Tree.Layout

/-! The texts of clauses. A text is written for a layout if it stands and has just the parentheses
of the layout. If the expressions in a clause are shown and what it writes without delimiters is
whole, its text is written for its layout. -/

namespace SqlWeave

open HasSlots (slots)
open Token (Opens Plain PlainOpens Stands isStop isWhole isWording)
open Render

/-- The text stands, and has the parentheses of the marks. -/
def Written (d : Dialect) (text : String) (ms : List Mark) : Prop :=
  ∃ ks, Stands d.quoting text ks ∧ Around d ms ks

/-- One text for each list of marks. -/
abbrev AllWritten (d : Dialect) : List String → List (List Mark) → Prop := List.Forall₂ (Written d)

variable {d : Dialect} {a b : String} {ms ns : List Mark} {texts : List String}
  {mss : List (List Mark)}

namespace Written

theorem plain (h : Plain d.quoting a) : Written d a [] := by
  obtain ⟨ks, hks, hplain⟩ := h
  exact ⟨ks, hks, .plain hplain⟩

theorem wording (h : a.toList.all isWording = true) : Written d a [] := .plain (.wording h)

theorem empty : Written d "" [] := .plain .empty

theorem append (ha : Written d a ms) (hb : Written d b ns)
    (hstop : isStop d.quoting b.toList = true) :
    Written d (a ++ b) (ms ++ ns) := by
  obtain ⟨ks, hks, hms⟩ := ha
  obtain ⟨js, hjs, hns⟩ := hb
  exact ⟨ks ++ js, hks.append hjs hstop, hms.append hns⟩

/-- Text without parentheses in front. -/
theorem behind (ha : PlainOpens d.quoting a) (hb : Written d b ns) : Written d (a ++ b) ns := by
  obtain ⟨ks, hks, hplain⟩ := ha
  obtain ⟨js, hjs, hns⟩ := hb
  exact ⟨ks ++ js, .behind hks hjs, (Around.plain hplain).append hns⟩

theorem spaced (ha : Written d a ms) (hb : Written d b ns) :
    Written d (a ++ " " ++ b) (ms ++ ns) := by
  obtain ⟨ks, hks, hms⟩ := ha
  obtain ⟨js, hjs, hns⟩ := hb
  exact ⟨ks ++ js, .behind hks.opens hjs, hms.append hns⟩

theorem inParens (h : Written d a ms) : Written d (inParens a) (Layout.enclosed ms) := by
  obtain ⟨ks, hks, hms⟩ := h
  exact ⟨_, (Opens.inParens hks).stands, hms.enclosed⟩

theorem nil_eq (h : Written d "" ms) (hb : Written d b ns) : Written d b (ms ++ ns) := by
  obtain ⟨ks, hks, hms⟩ := h
  obtain ⟨js, hjs, hns⟩ := hb
  cases hks.eq_nil
  exact ⟨js, hjs, hms.append hns⟩

/-- Texts with a separator between them. -/
theorem intercalate {separator : String} (hseparator : PlainOpens d.quoting separator)
    (hstop : ∀ b, isStop d.quoting (separator ++ b).toList = true) (h : AllWritten d texts mss) :
    Written d (separator.intercalate texts) mss.flatten := by
  induction h with
  | nil => exact empty
  | @cons a ms texts mss ha hrest ih =>
    cases hrest with
    | nil => simpa using ha
    | @cons b ns texts mss hb hrest =>
      rw [String.intercalate_cons_cons, String.append_assoc]
      exact ha.append (ih.behind hseparator) (hstop _)

theorem commas (h : AllWritten d texts mss) : Written d (commas texts) mss.flatten := by
  refine intercalate .comma (fun b => ?_) h
  rw [String.toList_append]
  exact Token.isStop_of_isApart rfl

theorem blanks (h : AllWritten d texts mss) : Written d (" ".intercalate texts) mss.flatten := by
  refine intercalate (.wording (by decide) rfl) (fun b => ?_) h
  rw [String.toList_append]
  exact Token.isStop_of_isApart rfl

theorem noFragments : Written d (fragments []) [] := empty

/-- A part without text leaves no blank. -/
theorem fragment (h : Written d a ms) (hrest : Written d (fragments texts) ns) :
    Written d (fragments (a :: texts)) (ms ++ ns) := by
  unfold Render.fragments at hrest ⊢
  by_cases ha : a = ""
  · subst ha
    exact h.nil_eq hrest
  · rw [List.filter_cons_of_pos (by simpa using ha)]
    cases hfilter : texts.filter (!·.isEmpty) with
    | nil =>
      rw [hfilter] at hrest
      obtain ⟨ks, hks, hms⟩ := h
      obtain ⟨js, hjs, hns⟩ := hrest
      cases hjs.eq_nil
      have hall := hms.append hns
      rw [List.append_nil] at hall
      exact ⟨ks, by simpa using hks, hall⟩
    | cons next more =>
      rw [hfilter] at hrest
      rw [String.intercalate_cons_cons]
      exact h.spaced hrest

theorem clause {w : String} (hw : w.toList.all isWording = true) (h : Written d b ms) :
    Written d (clause w b) ms := by
  unfold Render.clause
  split
  · rename_i hempty
    obtain rfl : b = "" := by simpa using hempty
    exact h
  · exact (wording hw).spaced h

theorem onlyIf {w : String} (hw : w.toList.all isWording = true) (flag : Bool) :
    Written d (onlyIf flag w) [] := by
  cases flag with
  | true => exact wording hw
  | false => exact empty

end Written

/-! ## Behind other texts -/

/-- The text is written for the marks, and nothing before it goes on with it. -/
structure Trailing (d : Dialect) (text : String) (ms : List Mark) : Prop where
  written : Written d text ms
  stop : isStop d.quoting text.toList = true

theorem Written.trailed (ha : Written d a ms) (hb : Trailing d b ns) :
    Written d (a ++ b) (ms ++ ns) :=
  ha.append hb.written hb.stop

namespace Trailing

theorem empty : Trailing d "" [] := ⟨.empty, rfl⟩

theorem append (ha : Trailing d a ms) (hb : Trailing d b ns) : Trailing d (a ++ b) (ms ++ ns) := by
  refine ⟨ha.written.trailed hb, ?_⟩
  rw [String.toList_append]
  exact Token.isStop_append ha.stop hb.stop

theorem inParens (h : Written d a ms) : Trailing d (inParens a) (Layout.enclosed ms) := by
  refine ⟨h.inParens, ?_⟩
  rw [Render.inParens, String.toList_append, String.toList_append]
  exact Token.isStop_of_isApart rfl

/-- Words with a blank at either end. -/
theorem words {w : String} (hw : w.toList.all isWording = true) (hhead : w.toList.head? = some ' ')
    (hlast : w.toList.getLast? = some ' ') (h : Written d b ns) : Trailing d (w ++ b) ns := by
  refine ⟨h.behind (.wording hw hlast), ?_⟩
  cases hcs : w.toList with
  | nil =>
    rw [hcs] at hhead
    cases hhead
  | cons c cs =>
    rw [hcs] at hhead
    cases hhead
    rw [String.toList_append, hcs]
    exact Token.isStop_of_isApart rfl

theorem blank (h : Written d b ns) : Trailing d (" " ++ b) ns := words (by decide) rfl rfl h

theorem comma (h : Written d b ns) : Trailing d (", " ++ b) ns := by
  refine ⟨h.behind .comma, ?_⟩
  rw [String.toList_append]
  exact Token.isStop_of_isApart rfl

theorem colon (h : Written d b ns) : Trailing d (": " ++ b) ns := by
  have hcolon : PlainOpens d.quoting ": " := by
    refine ⟨[.symbol .colon], fun rest => ?_, by decide⟩
    show Token.kinds d.quoting (':' :: ' ' :: rest) = _
    rw [Token.kinds_token (by decide) rfl]
    exact congrArg ([.symbol .colon] ++ ·) (Token.kinds_blank (c := ' ') (by decide) rest)
  refine ⟨h.behind hcolon, ?_⟩
  rw [String.toList_append]
  exact Token.isStop_of_stopsToken (by decide) (by decide)

theorem colons (h : Written d b ns) : Trailing d ("::" ++ b) ns := by
  have hcolons : PlainOpens d.quoting "::" := by
    refine ⟨[.symbol .doubleColon], fun rest => ?_, by decide⟩
    show Token.kinds d.quoting (':' :: ':' :: rest) = _
    rw [Token.kinds_token (by decide) rfl]
    rfl
  refine ⟨h.behind hcolons, ?_⟩
  rw [String.toList_append]
  exact Token.isStop_of_stopsToken (by decide) (by decide)

/-- Texts one after the other. -/
theorem join (h : List.Forall₂ (Trailing d) texts mss) :
    Trailing d (String.join texts) mss.flatten := by
  induction h with
  | nil => exact empty
  | @cons a ms texts mss ha _ ih =>
    rw [String.join_cons]
    exact ha.append ih

end Trailing

/-- Words between two texts, with a blank at either end. -/
theorem Written.between (ha : Written d a ms) {w : String} (hw : w.toList.all isWording = true)
    (hhead : w.toList.head? = some ' ') (hlast : w.toList.getLast? = some ' ')
    (hb : Written d b ns) :
    Written d (a ++ w ++ b) (ms ++ ns) := by
  rw [String.append_assoc]
  exact ha.trailed (.words hw hhead hlast hb)

/-! ## Results -/

/-- There is a result, and it is as it should be. -/
def Succeeds {α : Type} (P : α → Prop) (x : Result α) : Prop := ∃ a, x = .ok a ∧ P a

namespace Succeeds

variable {α β : Type} {P : α → Prop} {Q : β → Prop}

theorem pure {a : α} (h : P a) : Succeeds P (Pure.pure a) := ⟨a, rfl, h⟩

theorem bind {x : Result α} {f : α → Result β} (h : Succeeds P x)
    (hf : ∀ a, P a → Succeeds Q (f a)) : Succeeds Q (x >>= f) := by
  obtain ⟨a, rfl, ha⟩ := h
  exact hf a ha

theorem mono {P' : α → Prop} {x : Result α} (h : Succeeds P x) (hP : ∀ a, P a → P' a) :
    Succeeds P' x := by
  obtain ⟨a, rfl, ha⟩ := h
  exact ⟨a, rfl, hP a ha⟩

/-- One result for each member, in order. -/
theorem mapM {γ : Type} {R : β → γ → Prop} {f : α → Result β} {g : α → γ} {xs : List α}
    (h : ∀ x ∈ xs, Succeeds (R · (g x)) (f x)) :
    Succeeds (List.Forall₂ R · (xs.map g)) (xs.mapM f) := by
  induction xs with
  | nil => exact .pure .nil
  | cons x xs ih =>
    rw [List.mapM_cons]
    refine (h x List.mem_cons_self).bind fun y hy => ?_
    exact (ih fun z hz => h z (List.mem_cons_of_mem _ hz)).bind fun ys hys => .pure (.cons hy hys)

end Succeeds

/-- The result is a text written for the marks. -/
abbrev Prints (d : Dialect) (x : Result String) (ms : List Mark) : Prop :=
  Succeeds (Written d · ms) x

/-- The expression has a text, and its tokens show the expression. -/
def Showing (r : Renderer) (e : Expr) : Prop :=
  Succeeds (fun text => ∃ ks, Stands r.config.dialect.quoting text ks ∧ Shows r.config.dialect e ks)
    (r.expr e)

theorem Showing.prints {r : Renderer} {e : Expr} (h : Showing r e) :
    Prints r.config.dialect (r.expr e) [.part e] :=
  h.mono fun _ ⟨ks, hks, hshows⟩ => ⟨ks, hks, .shown hshows⟩

/-! ## Lists -/

variable {r : Renderer} {opening closing : Char}

/-- All of the texts are whole. -/
def AllWhole (d : Dialect) (texts : List String) : Prop :=
  ∀ text ∈ texts, isWhole d.quoting text = true

theorem AllWhole.plain {texts : List String} (h : AllWhole d texts) {text : String}
    (htext : text ∈ texts) :
    Plain d.quoting text := .ofWhole (h text htext)

/-- All of the expressions in a part are shown. -/
abbrev AllShowing (r : Renderer) {α : Type} [SizeOf α] [HasSlots α] (x : α) : Prop :=
  Slot.All (Showing r) (slots x)

section Lists

variable {α : Type} {x : Result (List String)}

theorem Succeeds.commas (h : Succeeds (AllWritten d · mss) x) :
    Prints d (do return commas (← x)) mss.flatten :=
  h.bind fun _ htexts => .pure (.commas htexts)

theorem clause_prints {w : String} (hw : w.toList.all Token.isWording = true) {x : Result String}
    (h : Prints d x ms) :
    Prints d (do return clause w (← x)) ms :=
  h.bind fun _ hx => .pure (hx.clause hw)

theorem flatten_nils (texts : List String) :
    (texts.map fun _ => ([] : List Mark)).flatten = [] := by
  induction texts with
  | nil => rfl
  | cons text texts ih => exact ih

theorem allWritten_plain (h : ∀ text ∈ texts, Plain d.quoting text) :
    AllWritten d texts (texts.map fun _ => []) :=
  List.forall₂_map_right_iff.mpr (List.forall₂_same.mpr fun text htext => .plain (h text htext))

theorem Written.plainCommas (h : ∀ text ∈ texts, Plain d.quoting text) :
    Written d (Render.commas texts) [] :=
  flatten_nils texts ▸ Written.commas (allWritten_plain h)

theorem Renderer.Standard.idents_plain (hr : r.Standard opening closing) (names : List String) :
    ∀ text ∈ r.idents names, Plain r.config.dialect.quoting text := by
  intro text htext
  obtain ⟨name, -, rfl⟩ := List.mem_map.mp htext
  exact .name hr.delimiters name

theorem flatten_parts (f : α → Expr) (xs : List α) :
    (xs.map fun x => [Mark.part (f x)]).flatten = Layout.parts (xs.map f) := by
  induction xs with
  | nil => rfl
  | cons x xs ih => exact congrArg (Mark.part (f x) :: ·) ih

/-- The texts of the members of a list. -/
theorem members_printed {es : List Expr} (h : AllShowing r es) :
    Succeeds (AllWritten r.config.dialect · (es.map fun e => [.part e]))
      (sqls (es.map r.item)) := by
  unfold sqls
  rw [List.mapM_map]
  refine .mapM fun e he => Showing.prints ?_
  exact (h.of_mem he) _ (List.mem_singleton_self _) e rfl

theorem Written.commaParts {es : List Expr} (h : AllWritten d texts (es.map fun e => [.part e])) :
    Written d (Render.commas texts) (Layout.parts es) := by
  have hcommas := Written.commas h
  rwa [flatten_parts (fun e => e), List.map_id'] at hcommas

theorem list_prints {es : List Expr} (h : AllShowing r es) :
    Prints r.config.dialect (do return commas (← sqls (es.map r.item))) (Layout.parts es) := by
  exact (members_printed h).bind fun _ htexts => .pure (.commaParts htexts)

theorem optional_shown {x : Option Expr} (h : AllShowing r x) : ∀ e ∈ x, Showing r e := by
  rintro e rfl
  rw [AllShowing, slots_some] at h
  exact h _ (List.mem_singleton_self _) e rfl

end Lists

/-! ## Windows -/

section Windows

theorem orderItem_prints {i : OrderItem Expr} (h : Showing r i.expr)
    (hi : i.Shaped r.config.dialect.quoting) :
    Prints r.config.dialect (orderItem (i.map r.item)) [.part i.expr] := by
  have hdirection : Plain r.config.dialect.quoting ((i.direction.map Text.upper).getD "ASC") := by
    cases hcase : i.direction with
    | none => exact .wording (by decide)
    | some direction => simpa [hcase, upper?] using hi.direction
  refine h.prints.bind fun text htext => .pure ?_
  exact htext.fragment ((Written.plain hdirection).fragment
    ((Written.plain hi.nulls).fragment .noFragments))

/-- A clause of items, one text for each. -/
theorem items_prints {items : List (OrderItem Expr)} {keyword : String}
    {f : OrderItem Item → Result String} (hkeyword : keyword.toList.all Token.isWording = true)
    (h : ∀ i ∈ items, Prints r.config.dialect (f (i.map r.item)) [.part i.expr]) :
    Prints r.config.dialect (do return clause keyword (commas
      (← (items.map (·.map r.item)).mapM f)))
      (Layout.orderItems (some items)) := by
  have hitems : Succeeds (AllWritten r.config.dialect · (items.map fun i => [.part i.expr]))
      ((items.map (·.map r.item)).mapM f) := by
    rw [List.mapM_map]
    exact .mapM h
  have hmarks : (items.map fun i => [Mark.part i.expr]).flatten = Layout.orderItems (some items) :=
    flatten_parts _ _
  rw [← hmarks]
  exact hitems.bind fun _ htexts => .pure ((Written.commas htexts).clause hkeyword)

theorem item_shown {items : Option (List (OrderItem Expr))} (h : AllShowing r items) :
    ∀ i ∈ items.getD [], Showing r i.expr := by
  intro i hi
  cases items with
  | none => cases hi
  | some items =>
    rw [AllShowing, slots_some] at h
    exact (h.of_mem hi) _ (List.mem_singleton_self _) i.expr rfl

theorem orderBy_prints {items : Option (List (OrderItem Expr))} (h : AllShowing r items)
    (hitems : ∀ i ∈ items.getD [], i.Shaped r.config.dialect.quoting) :
    Prints r.config.dialect (orderBy (items.map (·.map (·.map r.item))))
      (Layout.orderItems items) := by
  cases items with
  | none => exact .pure .empty
  | some items =>
    exact items_prints (by decide) fun i hi => orderItem_prints (item_shown h i hi) (hitems i hi)

theorem partitionBy_prints {items : Option (List (OrderItem Expr))} (h : AllShowing r items) :
    Prints r.config.dialect (partitionBy (items.map (·.map (·.map r.item))))
      (Layout.orderItems items) := by
  cases items with
  | none => exact .pure .empty
  | some items => exact items_prints (by decide) fun i hi => (item_shown h i hi).prints

/-- What of a window is written as it is. -/
def WindowSpec.bareTexts (w : WindowSpec Expr) : List String := w.name.toList ++ w.frame.toList

theorem windowSpec_prints {w : WindowSpec Expr} (h : AllShowing r w)
    (hw : w.Shaped r.config.dialect.quoting) (hbare : AllWhole r.config.dialect w.bareTexts) :
    Prints r.config.dialect (windowSpec (w.map r.item)) (Layout.window w) := by
  obtain ⟨name, partition, order, frame⟩ := w
  obtain ⟨hnamed, horder⟩ := hw
  obtain ⟨hpartition, horderBy⟩ := Slot.all_append.mp h
  cases name with
  | some name =>
    obtain ⟨rfl, rfl⟩ := hnamed rfl
    exact .pure (.plain (hbare.plain (by simp [WindowSpec.bareTexts])))
  | none =>
    have hframe : Plain r.config.dialect.quoting (frame.getD "") := by
      cases frame with
      | none => exact .empty
      | some frame => exact hbare.plain (by simp [WindowSpec.bareTexts])
    refine (partitionBy_prints hpartition).bind fun a ha => ?_
    refine (orderBy_prints horderBy horder).bind fun b hb => .pure ?_
    have hall := ha.fragment (hb.fragment ((Written.plain hframe).fragment .noFragments))
    simp only [List.append_nil] at hall
    exact hall.inParens

theorem overClause_prints {w : WindowSpec Expr} (h : AllShowing r w)
    (hw : w.Shaped r.config.dialect.quoting) (hbare : AllWhole r.config.dialect w.bareTexts) :
    Prints r.config.dialect (overClause (w.map r.item)) (Layout.window w) :=
  (windowSpec_prints h hw hbare).bind fun _ hw => .pure (hw.behind (.wording (by decide) rfl))

theorem over_prints {w : Option (WindowSpec Expr)} (h : AllShowing r w)
    (hw : ∀ v ∈ w, v.Shaped r.config.dialect.quoting)
    (hbare : AllWhole r.config.dialect (w.toList.flatMap WindowSpec.bareTexts)) :
    Succeeds (Trailing r.config.dialect · (Layout.overWindow w))
      (over? (w.map (·.map r.item))) := by
  cases w with
  | none => exact .pure .empty
  | some w =>
    rw [AllShowing, slots_some] at h
    rw [Option.toList_some, List.flatMap_singleton] at hbare
    rw [Layout.overWindow, Option.toList_some, List.flatMap_singleton]
    exact (overClause_prints h (hw w rfl) hbare).bind fun text htext => .pure (.blank htext)

theorem namedWindows_prints {ws : List (NamedWindow Expr)} (h : AllShowing r ws)
    (hws : ∀ w ∈ ws, w.spec.Shaped r.config.dialect.quoting)
    (hbare : ∀ w ∈ ws, AllWhole r.config.dialect (w.name :: w.spec.bareTexts)) :
    Prints r.config.dialect (namedWindows (ws.map (·.map r.item)))
      (ws.flatMap fun w => Layout.window w.spec) := by
  have hall : Succeeds (AllWritten r.config.dialect · (ws.map fun w => Layout.window w.spec))
      ((ws.map (·.map r.item)).mapM namedWindow) := by
    rw [List.mapM_map]
    refine .mapM fun w hw => ?_
    have hname := (hbare w hw).plain List.mem_cons_self
    have hspec := windowSpec_prints (h.of_mem hw) (hws w hw) fun text htext =>
      hbare w hw text (List.mem_cons_of_mem _ htext)
    exact hspec.bind fun text htext =>
      .pure ((Written.plain hname).between (by decide) rfl rfl htext)
  exact List.flatMap_def .. ▸ hall.commas

end Windows

/-! ## Types -/

section Types

theorem opens_leftBracket {q : Token.Quoting} (hq : q.bracketNames = false) :
    Opens q "[" [.symbol .leftBracket] :=
  Opens.mark (c := '[') (by decide) (fun _ => rfl) fun cs => by rw [Token.scan_bracket, hq]; rfl

theorem Written.inBrackets {text : String} (h : Written d text ms)
    (hq : d.quoting.bracketNames = false) :
    Written d ("[" ++ text ++ "]") ms := by
  have hclosing : Opens d.quoting "]" [.symbol .rightBracket] :=
    Opens.mark (c := ']') (by decide) (fun _ => rfl) (fun _ => rfl)
  have hstop : isStop d.quoting "]".toList = true := by
    rw [isStop, show "]".toList.head? = some ']' from rfl, Option.all_some, hq]
    rfl
  have hinner := (h.append (.plain (hclosing.stands.plain rfl)) hstop).behind
    ((opens_leftBracket hq).plain rfl)
  rwa [← String.append_assoc, List.append_nil] at hinner

theorem Trailing.inBrackets {text : String} (h : Written d text ms)
    (hq : d.quoting.bracketNames = false) :
    Trailing d ("[" ++ text ++ "]") ms := by
  refine ⟨h.inBrackets hq, ?_⟩
  rw [String.append_assoc, String.toList_append]
  exact Token.isStop_of_stopsToken (by decide) (by decide)

/-- What stands behind the arguments of a type. -/
def DataType.tailText (t : DataType Expr) : String :=
  (if t.array then "[]" else "") ++ String.join (t.suffix.map fun word => " " ++ Text.upper word)

theorem tailText_trailing {t : DataType Expr} (ht : t.Shaped d.quoting) :
    Trailing d t.tailText [] := by
  have hwords : List.Forall₂ (Trailing d) (t.suffix.map fun word => " " ++ Text.upper word)
      (t.suffix.map fun _ => []) := by
    refine List.forall₂_map_left_iff.mpr
      (List.forall₂_map_right_iff.mpr (List.forall₂_same.mpr fun word hword => ?_))
    exact .blank (.plain (ht.suffix word hword))
  have hjoin := Trailing.join hwords
  rw [flatten_nils] at hjoin
  unfold DataType.tailText
  split
  · exact Trailing.append (.inBrackets .empty (ht.array ‹_›)) hjoin
  · rw [String.empty_append]
    exact hjoin

/-- A name, what may stand in parentheses behind it, and the rest. -/
theorem dataType_written {t : DataType Expr} {arguments : String} (ht : t.Shaped d.quoting)
    (hname : isWhole d.quoting t.name = true) (harguments : Trailing d arguments ms) :
    Written d (t.name ++ arguments ++ t.tailText) ms := by
  have hall := (Written.plain (.ofWhole hname)).trailed (harguments.append (tailText_trailing ht))
  rwa [← String.append_assoc, List.append_nil] at hall

theorem typeText_size {t : DataType Expr} {n : Nat} (h : t.length = some n) (args : List String) :
    typeText t args = t.name ++ inParens (commas ((n :: t.scale.toList).map toString)) ++
      t.tailText := by
  unfold typeText DataType.tailText
  rw [h]
  cases t.scale <;> simp [inParens, commas, String.append_assoc]

theorem typeText_args {t : DataType Expr} (h : t.length = none) (args : List String) :
    typeText t args = t.name ++ (if args.isEmpty then "" else inParens (commas args)) ++
      t.tailText := by
  unfold typeText DataType.tailText
  rw [h]
  exact String.append_assoc

theorem dataType_prints {t : DataType Expr} (h : AllShowing r t)
    (ht : t.Shaped r.config.dialect.quoting)
    (hname : isWhole r.config.dialect.quoting t.name = true) :
    Prints r.config.dialect (Render.dataType (t.map r.item)) (Layout.dataType t) := by
  show Prints r.config.dialect (if t.length.isSome then return typeText t [] else
    return typeText t (← sqls (t.args.map r.item))) _
  unfold Layout.dataType
  cases hlength : t.length with
  | some n =>
    have hsizes : Written r.config.dialect (commas ((n :: t.scale.toList).map toString)) [] := by
      refine .plainCommas fun text htext => ?_
      obtain ⟨size, -, rfl⟩ := List.mem_map.mp htext
      exact .digits (Decimal.isDigits_toString size)
    rw [ht.length (by rw [hlength]; rfl), typeText_size hlength]
    exact .pure (dataType_written ht hname (.inParens hsizes))
  | none =>
    refine (members_printed h).bind fun texts htexts => ?_
    rw [typeText_args hlength]
    refine .pure (dataType_written ht hname ?_)
    cases hargs : t.args with
    | nil =>
      rw [hargs] at htexts
      cases htexts
      exact .empty
    | cons e es =>
      rw [hargs] at htexts
      have hcommas := Written.commaParts htexts
      cases htexts
      exact .inParens hcommas

end Types

end SqlWeave
