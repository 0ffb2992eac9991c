import QueryChain.Proofs.Statement.Binding

/-!
# References to parameters

The text of a statement refers to its parameters by name or by position. In a template each hole
stands for one reference, but the text is what the database gets: there a name of the caller could
refer to a parameter too, and a reference could run into the text behind it. A template is *plain*
if neither happens, and then the references in its text are those in its holes. Every clause is
plain as long as no name in it holds the sign with which references begin.
-/

namespace QueryChain

/-! ## References in a text -/

namespace Dialect

/-- The sign with which references begin. -/
def marker : Dialect → Char
  | sqlServer => '@'
  | postgres => '$'

/-- The reference to the parameter at an index. -/
def reference (d : Dialect) (index : Nat) : String :=
  match d with
  | sqlServer => "@param" ++ toString index
  | postgres => "$" ++ toString (index + 1)

/-- The references in a text, from left to right. A reference goes on as far as there are letters
and digits. -/
def references (d : Dialect) : List Char → List String
  | [] => []
  | c :: cs =>
    if c = d.marker then String.ofList (c :: cs.takeWhile Char.isAlphanum) :: d.references cs
    else d.references cs

@[simp] theorem placeholder_nameAt (d : Dialect) (index : Nat) :
    d.placeholder (Parameter.nameAt index) (index + 1) = d.reference index := by
  cases d <;> rfl

theorem isAlphanum_marker (d : Dialect) : d.marker.isAlphanum = false := by
  cases d <;> decide

/-- No reference begins in the text. -/
def Unmarked (d : Dialect) (s : String) : Prop := d.marker ∉ s.toList

instance (d : Dialect) (s : String) : Decidable (d.Unmarked s) := inferInstanceAs (Decidable (¬_))

theorem unmarked_append {d : Dialect} {s t : String} :
    d.Unmarked (s ++ t) ↔ d.Unmarked s ∧ d.Unmarked t := by
  rw [Unmarked, String.toList_append, List.mem_append, not_or]
  rfl

theorem unmarked_toString (d : Dialect) (n : Nat) : d.Unmarked (toString n) := by
  intro hmem
  have halnum := Token.isAlphanum_of_mem_toString hmem
  rw [isAlphanum_marker] at halnum
  cases halnum

theorem unmarked_intercalate {d : Dialect} {ss : List String} (h : ∀ s ∈ ss, d.Unmarked s) :
    d.Unmarked (", ".intercalate ss) := by
  have hcomma : d.Unmarked ", " := by cases d <;> decide
  induction ss with
  | nil => cases d <;> decide
  | cons s ss ih =>
    rw [List.forall_mem_cons] at h
    cases ss with
    | nil => exact h.1
    | cons t ss =>
      rw [String.intercalate_cons_cons, unmarked_append, unmarked_append]
      exact ⟨⟨h.1, hcomma⟩, ih h.2⟩

theorem references_append_of_notMem {d : Dialect} {cs : List Char} (h : d.marker ∉ cs)
    (es : List Char) : d.references (cs ++ es) = d.references es := by
  induction cs with
  | nil => rfl
  | cons c cs ih =>
    rw [List.mem_cons, not_or] at h
    rw [List.cons_append, references, if_neg (Ne.symm h.1), ih h.2]

/-- A reference is the sign, and letters and digits behind it. -/
theorem exists_toList_reference (d : Dialect) (index : Nat) :
    ∃ cs, (d.reference index).toList = d.marker :: cs ∧ ∀ c ∈ cs, c.isAlphanum := by
  cases d with
  | sqlServer =>
    refine ⟨"param".toList ++ (toString index).toList, ?_, fun c hc ↦ ?_⟩
    · rw [reference, String.toList_append]
      rfl
    · rcases List.mem_append.mp hc with hc | hc
      · exact List.all_eq_true.mp (by decide : "param".toList.all Char.isAlphanum) c hc
      · exact Token.isAlphanum_of_mem_toString hc
  | postgres =>
    refine ⟨(toString (index + 1)).toList, ?_, fun c hc ↦ Token.isAlphanum_of_mem_toString hc⟩
    rw [reference, String.toList_append]
    rfl

/-- A reference is found in front of a text that does not go on with a letter or a digit. -/
theorem references_reference_append (d : Dialect) (index : Nat) {es : List Char}
    (h : es.takeWhile Char.isAlphanum = []) :
    d.references ((d.reference index).toList ++ es) = d.reference index :: d.references es := by
  obtain ⟨cs, hcs, halnum⟩ := d.exists_toList_reference index
  have hmarker : d.marker ∉ cs := by
    intro hmem
    have htrue := halnum _ hmem
    rw [isAlphanum_marker] at htrue
    cases htrue
  have hrun : (cs ++ es).takeWhile Char.isAlphanum = cs := by
    rw [List.takeWhile_append_of_pos halnum, h, List.append_nil]
  rw [hcs, List.cons_append, references, if_pos rfl, hrun, references_append_of_notMem hmarker,
    ← hcs, String.ofList_toList]

end Dialect

/-! ## References in a template -/

namespace Template

/-- The text of a template with the given references in its holes. -/
def fill : Template → List String → String
  | [], _ => ""
  | .text s :: t, rs => s ++ fill t rs
  | .hole _ :: t, [] => fill t []
  | .hole _ :: t, r :: rs => r ++ fill t rs

theorem render_eq_fill (d : Dialect) (start : Nat) (t : Template) :
    t.render d start = t.fill ((List.range' start t.constants.length).map d.reference) := by
  induction t generalizing start with
  | nil => rfl
  | cons p t ih =>
    cases p with
    | text s =>
      rw [fill, constants, ← ih, render, parts, String.join_cons]
      rfl
    | hole c =>
      rw [constants, List.length_cons, List.range'_succ, List.map_cons, fill, ← ih, render, parts,
        String.join_cons, d.placeholder_nameAt]
      rfl

/-- The text of the template does not go on with a letter or a digit, wherever it stands. -/
def OpensApart : Template → Prop
  | [] => True
  | .text s :: _ => ∃ c cs, s.toList = c :: cs ∧ c.isAlphanum = false
  | .hole _ :: _ => False

/-- The fixed texts hold no reference, and none runs into a reference in front of it. -/
def Plain (d : Dialect) : Template → Prop
  | [] => True
  | .text s :: t => d.Unmarked s ∧ Plain d t
  | .hole _ :: t => OpensApart t ∧ Plain d t

theorem OpensApart.takeWhile_render {t : Template} (h : t.OpensApart) (d : Dialect) (start : Nat) :
    (render d start t).toList.takeWhile Char.isAlphanum = [] := by
  cases t with
  | nil => rfl
  | cons p t =>
    cases p with
    | hole c => cases h
    | text s =>
      obtain ⟨c, cs, hs, hc⟩ := h
      rw [render, parts, String.join_cons, String.toList_append, hs, List.cons_append,
        List.takeWhile_cons_of_neg (Bool.eq_false_iff.mp hc)]

/-- **The references in the text of a plain template are those in its holes.** -/
theorem Plain.references_render {d : Dialect} {t : Template} (h : t.Plain d) (start : Nat) :
    d.references (render d start t).toList =
      (List.range' start t.constants.length).map d.reference := by
  induction t generalizing start with
  | nil => rfl
  | cons p t ih =>
    cases p with
    | text s =>
      have hrender : (render d start (.text s :: t)).toList =
          s.toList ++ (render d start t).toList := by
        rw [render, parts, String.join_cons, String.toList_append]
        rfl
      rw [hrender, d.references_append_of_notMem h.1, ih h.2]
      rfl
    | hole c =>
      -- a hole gives one reference, which the text behind it does not lengthen
      have hrender : (render d start (.hole c :: t)).toList =
          (d.reference start).toList ++ (render d (start + 1) t).toList := by
        rw [render, parts, String.join_cons, String.toList_append, d.placeholder_nameAt]
        rfl
      rw [hrender, d.references_reference_append start (h.1.takeWhile_render d _), ih h.2]
      rfl

theorem OpensApart.text_append {a : String} {s t : Template} (h : OpensApart (.text a :: s))
    (b : String) : OpensApart (.text (a ++ b) :: t) := by
  obtain ⟨c, cs, ha, hc⟩ := h
  refine ⟨c, cs ++ b.toList, ?_, hc⟩
  rw [String.toList_append, ha, List.cons_append]

theorem OpensApart.append {s t : Template} (hs : s.OpensApart) (ht : t.OpensApart) :
    (s ++ t).OpensApart := by
  cases s with
  | nil => exact ht
  | cons p s => cases p <;> exact hs

theorem Plain.append {d : Dialect} {s t : Template} (hs : s.Plain d) (ht : t.Plain d)
    (hopen : t.OpensApart) : (s ++ t).Plain d := by
  induction s with
  | nil => exact ht
  | cons p s ih =>
    cases p with
    | text x => exact ⟨hs.1, ih hs.2⟩
    | hole c => exact ⟨hs.1.append hopen, ih hs.2⟩

end Template

/-! ## Plain writing -/

namespace Token

variable {d : Dialect}

theorem unmarked_piece {t : Token} {s : String} (h : ∀ name, t = member name → d.Unmarked name)
    (hs : t.piece = .text s) : d.Unmarked s := by
  cases t with
  | member name =>
    cases hs
    exact h _ rfl
  | constant c => cases hs
  | sign op =>
    cases hs
    cases d <;> cases op <;> decide
  | _ =>
    cases hs
    cases d <;> decide

theorem spell_cons (t : Token) (ts : List Token) : ∃ rest, spell (t :: ts) = t.piece :: rest := by
  cases ts with
  | nil => exact ⟨[], rfl⟩
  | cons u ts =>
    rw [spell]
    split
    · exact ⟨_, rfl⟩
    · exact ⟨_, rfl⟩

/-- What follows a token without a blank is a parenthesis or a comma. -/
theorem opensApart_spell {t u : Token} (h : ¬spaced t u) (ht : t ≠ leftParen) (ts : List Token) :
    (spell (u :: ts)).OpensApart := by
  have hsign : u = rightParen ∨ u = comma := by
    by_contra hne
    simp_all [spaced]
  obtain ⟨rest, hrest⟩ := spell_cons u ts
  rw [hrest]
  rcases hsign with rfl | rfl
  · exact ⟨')', [], rfl, by decide⟩
  · exact ⟨',', [], rfl, by decide⟩

theorem plain_piece_cons {t : Token} {rest : Template}
    (hname : ∀ name, t = member name → d.Unmarked name)
    (hopen : ∀ c, t = constant c → rest.OpensApart) (hrest : rest.Plain d) :
    Template.Plain d (t.piece :: rest) := by
  -- whether a piece is a text or a hole says whether the token is a constant
  cases hpiece : t.piece with
  | text s => exact ⟨unmarked_piece hname hpiece, hrest⟩
  | hole c =>
    have ht : t = constant c := by
      cases t <;> cases hpiece
      rfl
    exact ⟨hopen c ht, hrest⟩

theorem plain_spell {ts : List Token} (h : ∀ name, member name ∈ ts → d.Unmarked name) :
    (spell ts).Plain d := by
  fun_induction spell ts with
  | case1 => trivial
  | case2 t =>
    refine plain_piece_cons (fun name hname ↦ h name ?_) (fun _ _ ↦ trivial) trivial
    rw [hname]
    exact List.mem_cons_self
  | case3 t u ts _ ih =>
    have hrest := ih fun name hname ↦ h name (List.mem_cons_of_mem _ hname)
    have hblank : d.Unmarked " " := by cases d <;> decide
    refine plain_piece_cons (fun name hname ↦ h name ?_) (fun _ _ ↦ ?_) ⟨hblank, hrest⟩
    · rw [hname]
      exact List.mem_cons_self
    · exact ⟨' ', [], rfl, by decide⟩
  | case4 t u ts hspaced ih =>
    have hrest := ih fun name hname ↦ h name (List.mem_cons_of_mem _ hname)
    refine plain_piece_cons (fun name hname ↦ h name ?_) (fun c hc ↦ ?_) hrest
    · rw [hname]
      exact List.mem_cons_self
    · exact opensApart_spell hspaced (by rw [hc]; exact Token.noConfusion) ts

end Token

theorem opensApart_whereClause (ts : List Token) : (whereClause ts).OpensApart := by
  rw [whereClause]
  split
  · trivial
  · exact ⟨' ', _, rfl, by decide⟩

theorem plain_whereClause {d : Dialect} {ts : List Token}
    (h : ∀ name ∈ (Token.operands d ts).filterMap Operand.column?, d.Unmarked name) :
    (whereClause ts).Plain d := by
  rw [whereClause]
  split
  · trivial
  · refine ⟨by cases d <;> decide, Token.plain_spell fun name hname ↦ h name ?_⟩
    rw [List.mem_filterMap]
    exact ⟨.column name, List.mem_filterMap.mpr ⟨.member name, hname, rfl⟩, rfl⟩

theorem Template.plain_holes (d : Dialect) (vs : List Value) : (holes vs).Plain d := by
  induction vs with
  | nil => trivial
  | cons v vs ih =>
    cases vs with
    | nil => exact ⟨trivial, trivial⟩
    | cons w vs => exact ⟨⟨',', _, rfl, by decide⟩, by cases d <;> decide, ih⟩

theorem Source.plain_template {d : Dialect} {s : Source} (h : d.Unmarked s.name) :
    s.template.Plain d := by
  cases s with
  | table name => exact ⟨h, trivial⟩
  | function name args =>
    have hopen : d.Unmarked "(" := by cases d <;> decide
    have hclose : d.Unmarked ")" := by cases d <;> decide
    exact ⟨Dialect.unmarked_append.mpr ⟨h, hopen⟩, (Template.plain_holes d args).append
      ⟨hclose, trivial⟩ ⟨')', _, rfl, by decide⟩⟩

theorem Statement.plain_assignments {d : Dialect} {fields : List (String × Value)}
    (h : ∀ e ∈ fields, d.Unmarked e.1) : (assignments fields).Plain d := by
  have hsign : d.Unmarked " = " := by cases d <;> decide
  induction fields with
  | nil => trivial
  | cons e fields ih =>
    obtain ⟨field, v⟩ := e
    rw [List.forall_mem_cons] at h
    have hfield : d.Unmarked (field ++ " = ") := Dialect.unmarked_append.mpr ⟨h.1, hsign⟩
    cases fields with
    | nil => exact ⟨hfield, trivial, trivial⟩
    | cons f fields =>
      exact ⟨hfield, ⟨',', _, rfl, by decide⟩, by cases d <;> decide, ih h.2⟩

/-- The columns that are named. -/
def SelectList.names : SelectList → List String
  | count => []
  | columns _ fields => fields.getD []

/-- The columns that rows are ordered by. -/
def OrderClause.names : OrderClause → List String
  | absent | arbitrary => []
  | keys ks => ks.map Prod.fst

theorem OrderClause.names_ofKeys (ks : List (String × Direction)) (hasOffset : Bool) :
    (ofKeys ks hasOffset).names = ks.map Prod.fst := by
  rw [ofKeys]
  by_cases hnil : ks = []
  · rw [if_pos hnil, hnil]
    cases hasOffset <;> rfl
  · rw [if_neg hnil]
    rfl

namespace Select

/-- The names outside the source and the condition. -/
def outerNames (s : Select) : List String := s.list.names ++ s.order.names

theorem unmarked_list {d : Dialect} {s : Select} (h : ∀ x ∈ s.outerNames, d.Unmarked x) :
    d.Unmarked s.list.text := by
  have hcount : d.Unmarked SelectList.count.text := by cases d <;> decide
  obtain ⟨list, source, condition, order, offset, fetch⟩ := s
  cases list with
  | count => exact hcount
  | columns top fields =>
    refine Dialect.unmarked_append.mpr ⟨?_, ?_⟩
    · cases top <;> cases d <;> decide
    · cases fields with
      | none => cases d <;> decide
      | some fields => exact Dialect.unmarked_intercalate fun x hx ↦ h x (List.mem_append_left _ hx)

theorem unmarked_orderText {d : Dialect} {ks : List (String × Direction)}
    (h : ∀ k ∈ ks, d.Unmarked k.1) : d.Unmarked (orderText ks) := by
  refine Dialect.unmarked_intercalate fun s hs ↦ ?_
  obtain ⟨k, hk, rfl⟩ := List.mem_map.mp hs
  have hdirection : d.Unmarked k.2.sql := by
    generalize k.2 = dir
    cases d <;> cases dir <;> decide
  have hblank : d.Unmarked " " := by cases d <;> decide
  rw [Dialect.unmarked_append, Dialect.unmarked_append]
  exact ⟨⟨h k hk, hblank⟩, hdirection⟩

theorem plain_order {d : Dialect} {s : Select} (h : ∀ x ∈ s.outerNames, d.Unmarked x) :
    s.order.template.Plain d ∧ s.order.template.OpensApart := by
  obtain ⟨list, source, condition, order, offset, fetch⟩ := s
  cases order with
  | absent => exact ⟨trivial, trivial⟩
  | arbitrary => exact ⟨⟨by cases d <;> decide, trivial⟩, ' ', _, rfl, by decide⟩
  | keys ks =>
    have hkeys : d.Unmarked (orderText ks) := unmarked_orderText fun k hk ↦
      h k.1 (List.mem_append_right _ (List.mem_map_of_mem hk))
    have hopen : Template.OpensApart [.text " ORDER BY "] := ⟨' ', _, rfl, by decide⟩
    exact ⟨⟨Dialect.unmarked_append.mpr ⟨by cases d <;> decide, hkeys⟩, trivial⟩,
      hopen.text_append _⟩

theorem plain_number {d : Dialect} (before behind : String) (n : Nat) (hbefore : d.Unmarked before)
    (hbehind : d.Unmarked behind) (hopen : Template.OpensApart [.text before]) :
    Template.Plain d [.text (before ++ toString n ++ behind)] ∧
      Template.OpensApart [.text (before ++ toString n ++ behind)] := by
  refine ⟨⟨?_, trivial⟩, ?_⟩
  · rw [Dialect.unmarked_append, Dialect.unmarked_append]
    exact ⟨⟨hbefore, d.unmarked_toString n⟩, hbehind⟩
  · rw [String.append_assoc]
    exact hopen.text_append _

theorem plain_offsetClause (d : Dialect) (n : Option UInt64) :
    (offsetClause n).Plain d ∧ (offsetClause n).OpensApart := by
  cases n with
  | none => exact ⟨trivial, trivial⟩
  | some n =>
    exact plain_number " OFFSET " " ROWS" n.toNat (by cases d <;> decide) (by cases d <;> decide)
      ⟨' ', _, rfl, by decide⟩

theorem plain_fetchClause (d : Dialect) (n : Option UInt64) :
    (fetchClause n).Plain d ∧ (fetchClause n).OpensApart := by
  cases n with
  | none => exact ⟨trivial, trivial⟩
  | some n =>
    exact plain_number " FETCH NEXT " " ROW ONLY" n.toNat (by cases d <;> decide)
      (by cases d <;> decide) ⟨' ', _, rfl, by decide⟩

theorem plain_tail {d : Dialect} {s : Select} (h : ∀ x ∈ s.outerNames, d.Unmarked x) :
    s.tail.Plain d ∧ s.tail.OpensApart := by
  obtain ⟨horder, hopen⟩ := plain_order h
  obtain ⟨hoffset, hopen'⟩ := plain_offsetClause d s.offset
  obtain ⟨hfetch, hopen''⟩ := plain_fetchClause d s.fetch
  exact ⟨(horder.append hoffset hopen').append hfetch hopen'',
    (hopen.append hopen').append hopen''⟩

end Select

end QueryChain
