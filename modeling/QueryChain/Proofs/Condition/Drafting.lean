import QueryChain.Proofs.Statement.Filtering
import QueryChain.Statement.Draft

/-!
# Conditions written in one go

A condition in a draft and the tokens of a condition have the same text, and the store takes the
constants of the tokens in the order in which they stand. The tokens are joined and spelled
afterwards, with blanks between them that depend on both neighbours; the draft writes each piece
with its own blanks. The two agree because what is written of a predicate neither begins nor ends
with a sign that would take a blank away from the keyword next to it.

A step of writing is compared with an emission from every store on, so that one comparison can
follow another.
-/

namespace QueryChain

open Drafting

theorem Parameter.numberFrom_concat (start : Nat) (vs : List Value) (v : Value) :
    numberFrom start (vs ++ [v]) = numberFrom start vs ++ [⟨nameAt (start + vs.length), v⟩] := by
  rw [numberFrom_eq_mapIdx, numberFrom_eq_mapIdx, List.mapIdx_concat]
  rfl

namespace Store

/-- The store that the given values were added to, in order. -/
def ofValues (vs : List Value) : Store := ⟨Parameter.numberFrom 0 vs⟩

theorem length_ofValues (vs : List Value) : (ofValues vs).parameters.length = vs.length := by
  rw [ofValues, Parameter.numberFrom_eq_mapIdx, List.length_mapIdx]

theorem append_ofValues (vs : List Value) (v : Value) :
    (ofValues vs).append v = (Parameter.nameAt vs.length, ofValues (vs ++ [v])) := by
  rw [append, length_ofValues, ofValues, ofValues, Parameter.numberFrom_concat, Nat.zero_add]

end Store

namespace Drafting

variable {α β : Type} {x : Drafting α} {w w' : Draft} {d : Dialect}

theorem bind_of_ok {a : α} (h : x w = (.ok a, w')) (f : α → Drafting β) :
    (x >>= f) w = f a w' := by
  change (match x w with | (r, w') => ExceptT.bindCont f r w') = _
  rw [h]
  rfl

theorem bind_of_error {e : Error} (h : x w = (.error e, w')) (f : α → Drafting β) :
    (x >>= f) w = (.error e, w') := by
  change (match x w with | (r, w') => ExceptT.bindCont f r w') = _
  rw [h]
  rfl

theorem lift_ok_bind (a : α) (f : α → Drafting β) :
    (liftM (Except.ok a : Except Error α) : Drafting α) >>= f = f a := rfl

theorem lift_error_bind (e : Error) (f : α → Drafting β) (w : Draft) :
    ((liftM (Except.error e : Except Error α) : Drafting α) >>= f) w = (.error e, w) := rfl

theorem bindValue_apply (v : Value) (bound : List Value) (sql : String) :
    bindValue d v ⟨.ofValues bound, sql⟩ =
      (.ok (d.reference bound.length), ⟨.ofValues (bound ++ [v]), sql⟩) := by
  have happly : bindValue d v ⟨.ofValues bound, sql⟩ =
      (.ok (d.placeholder ((Store.ofValues bound).append v).1
        ((Store.ofValues bound).append v).2.parameters.length),
        ⟨((Store.ofValues bound).append v).2, sql⟩) := rfl
  rw [happly, Store.append_ofValues, Store.length_ofValues, List.length_append,
    List.length_singleton, d.placeholder_nameAt]

/-- Steps that bind one value each refer to it by their place. -/
theorem mapM_apply {step : α → Drafting β} (text : α → String → β) (value : α → Value)
    {as : List α} (hstep : ∀ a ∈ as, ∀ bound sql, step a ⟨.ofValues bound, sql⟩ =
      (.ok (text a (d.reference bound.length)), ⟨.ofValues (bound ++ [value a]), sql⟩))
    (bound : List Value) (sql : String) :
    as.mapM step ⟨.ofValues bound, sql⟩ =
      (.ok (as.mapIdx fun i a ↦ text a (d.reference (bound.length + i))),
        ⟨.ofValues (bound ++ as.map value), sql⟩) := by
  induction as generalizing bound with
  | nil =>
    rw [List.map_nil, List.append_nil]
    rfl
  | cons a as ih =>
    rw [List.forall_mem_cons] at hstep
    rw [List.mapM_cons, bind_of_ok (hstep.1 bound sql), bind_of_ok (ih hstep.2 _),
      List.append_assoc, List.length_append, List.length_singleton, List.mapIdx_cons]
    simp only [Nat.add_assoc, Nat.add_comm 1]
    rfl

theorem writtenBy_of_ok {x : Drafting Unit} {store : Store} (h : x ⟨store, ""⟩ = (.ok (), w'))
    (sql : String) : writtenBy x ⟨store, sql⟩ = (.ok w'.sql, { w' with sql }) := by
  rw [writtenBy, h]
  rfl

theorem writtenBy_of_error {x : Drafting Unit} {store : Store} {e : Error}
    (h : x ⟨store, ""⟩ = (.error e, w')) (sql : String) :
    writtenBy x ⟨store, sql⟩ = (.error e, { w' with sql }) := by
  rw [writtenBy, h]
  rfl

theorem write_apply (text : String) (w : Draft) :
    write text w = (.ok (), { w with sql := w.sql ++ text }) := rfl

end Drafting

/-! ## Texts of tokens -/

/-- The text of a list whose members have one hole each, with commas between them. -/
theorem Template.render_eq_intercalate {α : Type} {d : Dialect} {t : List α → Template}
    {f : α → String → String} (hnil : t [] = [])
    (hone : ∀ a start, render d start (t [a]) = f a (d.reference start))
    (hmore : ∀ a b as start, render d start (t (a :: b :: as)) =
      f a (d.reference start) ++ ", " ++ render d (start + 1) (t (b :: as)))
    (start : Nat) (as : List α) :
    render d start (t as) =
      ", ".intercalate (as.mapIdx fun i a ↦ f a (d.reference (start + i))) := by
  induction as generalizing start with
  | nil => rw [hnil, render_nil, List.mapIdx_nil, String.intercalate_nil]
  | cons a as ih =>
    cases as with
    | nil => simp [hone]
    | cons b as =>
      rw [hmore, ih, List.mapIdx_cons, List.mapIdx_cons, List.mapIdx_cons,
        String.intercalate_cons_cons]
      simp only [Nat.add_assoc, Nat.add_comm 1, Nat.add_zero]

namespace Token

variable {t u j : Token} {ts us : List Token}

theorem spell_cons_cons (t u : Token) (ts : List Token) :
    spell (t :: u :: ts) =
      t.piece :: (if spaced t u then [.text " "] else []) ++ spell (u :: ts) := by
  rw [spell]
  split <;> rfl

theorem spell_append (ts : List Token) (t u : Token) (us : List Token) :
    spell (ts ++ [t] ++ u :: us) =
      spell (ts ++ [t]) ++ (if spaced t u then [.text " "] else []) ++ spell (u :: us) := by
  induction ts with
  | nil => exact spell_cons_cons t u us
  | cons a ts ih =>
    obtain ⟨b, rest, hb⟩ := List.exists_cons_of_ne_nil (List.append_ne_nil_of_right_ne_nil ts
      (List.cons_ne_nil t []))
    rw [hb] at ih
    rw [List.cons_append, hb, List.cons_append, List.cons_append, spell_cons_cons, spell_cons_cons,
      ← List.cons_append, ih]
    simp only [List.append_assoc, List.cons_append]

/-- The tokens neither begin nor end with a sign that stands next to its neighbour without a blank.
-/
structure StandFree (ts : List Token) : Prop where
  head : ∃ t us, ts = t :: us ∧ t ≠ rightParen ∧ t ≠ comma
  last : ∃ us t, ts = us ++ [t] ∧ t ≠ leftParen

theorem spell_between (hts : StandFree ts) (hus : StandFree us) (hleft : j ≠ leftParen)
    (hright : j ≠ rightParen) (hcomma : j ≠ comma) :
    spell (ts ++ j :: us) = spell ts ++ [.text " ", j.piece, .text " "] ++ spell us := by
  obtain ⟨ts, t, rfl, ht⟩ := hts.last
  obtain ⟨u, us, rfl, hu, hu'⟩ := hus.head
  have hbefore : spaced t j := by simp [spaced, ht, hright, hcomma]
  have hbehind : spaced j u := by simp [spaced, hleft, hu, hu']
  rw [spell_append, if_pos hbefore, spell_cons_cons, if_pos hbehind]
  simp only [List.append_assoc, List.cons_append, List.nil_append]

/-- Nothing is put between an opening parenthesis and what follows it. -/
theorem spell_leftParen_cons (ts : List Token) :
    spell (leftParen :: ts) = .text "(" :: spell ts := by
  cases ts with
  | nil => rfl
  | cons t ts => exact spell_cons_cons leftParen t ts

/-- A closing parenthesis is written without a blank. -/
theorem spell_append_rightParen (ts : List Token) :
    spell (ts ++ [rightParen]) = spell ts ++ [.text ")"] := by
  rcases List.eq_nil_or_concat ts with rfl | ⟨ts, t, rfl⟩
  · rfl
  · have htight : ¬spaced t rightParen := by simp [spaced]
    rw [List.concat_eq_append, spell_append, if_neg htight, List.append_nil]
    rfl

namespace StandFree

theorem append_cons (hts : StandFree ts) (j : Token) (hus : StandFree us) :
    StandFree (ts ++ j :: us) := by
  obtain ⟨t, ts', rfl, ht, ht'⟩ := hts.head
  obtain ⟨us', u, rfl, hu⟩ := hus.last
  exact ⟨⟨t, _, rfl, ht, ht'⟩, (t :: ts') ++ j :: us', u, by simp, hu⟩

theorem enclose (parens : Bool) (hts : StandFree ts) : StandFree (Token.enclose parens ts) := by
  cases parens with
  | false => exact hts
  | true => exact ⟨⟨.leftParen, _, rfl, nofun, nofun⟩, .leftParen :: ts, .rightParen, rfl, nofun⟩

theorem notIf_append (negated : Bool) (hts : StandFree ts) :
    StandFree (Predicate.notIf negated ++ ts) := by
  cases negated with
  | false => exact hts
  | true =>
    obtain ⟨ts', t, rfl, ht⟩ := hts.last
    exact ⟨⟨.not, _, rfl, nofun, nofun⟩, .not :: ts', t, rfl, ht⟩

theorem joined (negated parens lparens rparens : Bool) (j : Token) (hts : StandFree ts)
    (hus : StandFree us) : StandFree (Predicate.notIf negated ++ Token.enclose parens
      (Token.enclose lparens ts ++ j :: Token.enclose rparens us)) :=
  (((hts.enclose lparens).append_cons j (hus.enclose rparens)).enclose parens).notIf_append negated

end StandFree

end Token

namespace Predicate

variable {p : Predicate} {negated : Bool} {ts : List Token}

theorem standFree_nullTest (name : String) (negated : Bool) :
    Token.StandFree (nullTest name negated) :=
  ⟨⟨.member name, _, rfl, nofun, nofun⟩, _, .null, rfl, nofun⟩

theorem standFree_emitCompare {op : CompareOp} {l r : Predicate}
    (h : emitCompare op l r = .write ts) : Token.StandFree ts := by
  obtain ⟨name, v, memberFirst, hwritten, -, -⟩ := emitCompare_eq_write h
  rcases emitComparison_eq_write hwritten with ⟨-, ⟨-, rfl⟩ | ⟨-, rfl⟩⟩ | ⟨-, rfl⟩
  · exact standFree_nullTest name false
  · exact standFree_nullTest name true
  · cases memberFirst with
    | true => exact ⟨⟨.member name, _, rfl, nofun, nofun⟩, [_, _], _, rfl, nofun⟩
    | false => exact ⟨⟨_, _, rfl, nofun, nofun⟩, [_, _], .member name, rfl, nofun⟩

/-- Whatever is written of a predicate can be put next to a keyword. -/
theorem standFree_emit (h : p.emit negated = .write ts) : Token.StandFree ts := by
  induction p generalizing negated ts with
  | member name => cases h
  | literal v => cases h
  | not p ih => exact ih h
  | and l r ihl ihr | or l r ihl ihr =>
    obtain ⟨us, vs, hl, hr, rfl⟩ := joined_eq_write l.isFlat r.isFlat h
    exact (ihl hl).joined negated true l.isFlat r.isFlat _ (ihr hr)
  | flatAnd l r ihl ihr | flatOr l r ihl ihr =>
    obtain ⟨us, vs, hl, hr, rfl⟩ := joined_eq_write false false h
    exact (ihl hl).joined negated negated false false _ (ihr hr)
  | compare op l r => exact standFree_emitCompare h
  | like kind name s =>
    obtain rfl := Emission.write_inj.mp (emitNamed_eq_write h)
    exact ⟨⟨.member name, _, rfl, nofun, nofun⟩, [.member name] ++ notIf negated ++ [.like],
      .constant (.value (.string (kind.pattern s))), by simp, nofun⟩
  | inSet name vs =>
    obtain ⟨-, rfl⟩ := emitIn_eq_write h
    exact ⟨⟨.member name, _, rfl, nofun, nofun⟩, _, .rightParen, rfl, nofun⟩
  | boolEquals name b =>
    have hwritten := emitNamed_eq_write h
    cases b with
    | none =>
      obtain rfl := Emission.write_inj.mp hwritten
      exact standFree_nullTest name negated
    | some b =>
      obtain rfl := Emission.write_inj.mp hwritten
      exact ⟨⟨.member name, _, rfl, nofun, nofun⟩, [_, _], _, rfl, nofun⟩

end Predicate

/-! ## Steps that write tokens -/

/-- From every store on, the step binds the constants of the emission; it fails if the emission
does, and else adds the text of the tokens. What was written before a failure does not matter. -/
def Writes (d : Dialect) (x : Drafting Unit) (e : Emission) : Prop :=
  ∀ bound sql,
    let store := Store.ofValues (bound ++ (Token.constants e.tokens).map (Constant.bound d))
    match e.failure with
    | none => x ⟨.ofValues bound, sql⟩ =
        (.ok (), ⟨store, sql ++ Template.render d bound.length (Token.spell e.tokens)⟩)
    | some err => ∃ sql', x ⟨.ofValues bound, sql⟩ = (.error err, ⟨store, sql'⟩)

namespace Writes

variable {d : Dialect} {x y : Drafting Unit} {e f : Emission} {seps : List Token} {between : String}

theorem fail (err : Error) : Writes d (throw err) (.fail err) := by
  intro bound sql
  refine ⟨sql, ?_⟩
  simp only [Emission.fail, Token.constants, List.filterMap_nil, List.map_nil, List.append_nil]
  rfl

theorem nothing : Writes d (pure ()) (.write []) := by
  intro bound sql
  have hempty : sql ++ Template.render d bound.length (Token.spell []) = sql := String.append_empty
  simp only [Emission.write, Token.constants, List.filterMap_nil, List.map_nil, List.append_nil,
    hempty]
  rfl

theorem seq (hx : Writes d x e) (hy : Writes d y f) (hseps : Token.constants seps = [])
    (hspell : ∀ ts us, e = .write ts → f = .write us → ∀ start,
      Template.render d start (Token.spell (ts ++ seps ++ us)) =
        Template.render d start (Token.spell ts) ++ between ++
          Template.render d (start + (Token.constants ts).length) (Token.spell us)) :
    Writes d (do x; write between; y) (e ++ .write seps ++ f) := by
  intro bound sql
  obtain ⟨ts, _ | err⟩ := e
  · have hconstants (us : List Token) : bound ++ (Token.constants (ts ++ seps ++ us)).map
        (Constant.bound d) = bound ++ (Token.constants ts).map (Constant.bound d) ++
          (Token.constants us).map (Constant.bound d) := by
      rw [Token.constants_append, Token.constants_append, hseps, List.append_nil, List.map_append,
        List.append_assoc]
    have hlength : (bound ++ (Token.constants ts).map (Constant.bound d)).length =
        bound.length + (Token.constants ts).length := by
      rw [List.length_append, List.length_map]
    rw [bind_of_ok (hx bound sql), bind_of_ok (write_apply between _)]
    -- the second step starts from the store that the first one left behind
    obtain ⟨us, _ | err⟩ := f
    · refine (hy _ _).trans ?_
      dsimp only [Emission.append_def, Emission.join, Emission.write]
      rw [hconstants, hspell ts us rfl rfl, hlength]
      simp only [String.append_assoc]
    · obtain ⟨sql', hrun⟩ := hy (bound ++ (Token.constants ts).map (Constant.bound d)) _
      refine ⟨sql', hrun.trans ?_⟩
      dsimp only [Emission.append_def, Emission.join, Emission.write]
      rw [hconstants]
  -- an error in the first step: nothing else is bound, and joining forgets the rest as well
  · obtain ⟨sql', hrun⟩ := hx bound sql
    exact ⟨sql', bind_of_error hrun _⟩

/-- Text in front of a step. -/
theorem write_bind (hx : Writes d x e) (hseps : Token.constants seps = [])
    (hspell : ∀ ts, e = .write ts → ∀ start, Template.render d start (Token.spell (seps ++ ts)) =
      between ++ Template.render d start (Token.spell ts)) :
    Writes d (do write between; x) (.write seps ++ e) := by
  refine nothing.seq hx hseps fun ts us hts hus start ↦ ?_
  obtain rfl := Emission.write_inj.mp hts
  rw [List.nil_append, hspell us hus start]
  rfl

/-- Text behind a step. -/
theorem bind_write (hx : Writes d x e) (hseps : Token.constants seps = [])
    (hspell : ∀ ts, e = .write ts → ∀ start, Template.render d start (Token.spell (ts ++ seps)) =
      Template.render d start (Token.spell ts) ++ between) :
    Writes d (do x; write between) (e ++ .write seps) := by
  have hboth : Writes d (do x; write between; pure ()) (e ++ .write seps ++ .write []) := by
    refine hx.seq nothing hseps fun ts us hts hus start ↦ ?_
    obtain rfl := Emission.write_inj.mp hus
    rw [List.append_nil, hspell ts hts start]
    exact String.append_empty.symm
  rw [Emission.append_assoc, Emission.write_append_write, List.append_nil] at hboth
  simpa using hboth

theorem text {ts : List Token} {s : String} (hconstants : Token.constants ts = [])
    (hspell : ∀ start, Template.render d start (Token.spell ts) = s) :
    Writes d (write s) (.write ts) := by
  intro bound sql
  dsimp only [Emission.write]
  rw [hconstants, List.map_nil, List.append_nil, hspell]
  rfl

theorem bound {ts : List Token} {c : Constant} {s : String → String}
    (hconstants : Token.constants ts = [c])
    (hspell : ∀ start, Template.render d start (Token.spell ts) = s (d.reference start)) :
    Writes d (do write (s (← bindValue d (c.bound d)))) (.write ts) := by
  intro bound sql
  dsimp only [Emission.write]
  rw [hconstants, List.map_singleton, hspell, bind_of_ok (bindValue_apply _ bound sql)]
  rfl

theorem listed {ts : List Token} {vs : List Value} {s : List String → String}
    (hconstants : Token.constants ts = vs.map .value)
    (hspell : ∀ start, Template.render d start (Token.spell ts) =
      s (vs.mapIdx fun i _ ↦ d.reference (start + i))) :
    Writes d (do write (s (← vs.mapM (bindValue d)))) (.write ts) := by
  intro bound sql
  have hvalues : (vs.map Constant.value).map (Constant.bound d) = vs := by
    rw [List.map_map]
    exact List.map_id vs
  dsimp only [Emission.write]
  rw [hconstants, hvalues, hspell,
    bind_of_ok (mapM_apply (fun _ r ↦ r) id (fun v _ ↦ bindValue_apply v) bound sql), List.map_id]
  rfl

theorem named (name : String) (hx : Writes d x e) :
    Writes d (do checkName "member" name; x) (Predicate.emitNamed name e) := by
  rw [Predicate.emitNamed]
  rcases checkName "member" name with err | ⟨⟩
  · exact fail err
  · exact hx

theorem enclosed (hx : Writes d x e) :
    Writes d (Predicate.draftEnclosed x) (Predicate.enclose true e) := by
  have hopened : Writes d (do write "("; x) (.write [.leftParen] ++ e) := by
    refine hx.write_bind rfl fun ts _ start ↦ ?_
    rw [List.singleton_append, Token.spell_leftParen_cons, Template.render_text_cons]
  have hclosed : Writes d (do write "("; x; write ")")
      (.write [.leftParen] ++ e ++ .write [.rightParen]) := by
    have hboth : Writes d (do (do write "("; x); write ")")
        (.write [.leftParen] ++ e ++ .write [.rightParen]) := by
      refine hopened.bind_write rfl fun ts _ start ↦ ?_
      rw [Token.spell_append_rightParen, Template.render_append]
      rfl
    rwa [bind_assoc] at hboth
  exact hclosed

/-- A keyword between two steps, with blanks around it. -/
theorem joined {j : Token} {keyword : String} (hx : Writes d x e) (hy : Writes d y f)
    (he : ∀ ts, e = .write ts → Token.StandFree ts) (hf : ∀ us, f = .write us → Token.StandFree us)
    (hj : j.piece = .text keyword) (hkeyword : j ≠ .leftParen ∧ j ≠ .rightParen ∧ j ≠ .comma) :
    Writes d (Predicate.draftJoined keyword x y) (e ++ .write [j] ++ f) := by
  have hconstants : Token.constants [j] = [] := by
    cases j <;> first | rfl | cases hj
  refine hx.seq hy hconstants fun ts us hts hus start ↦ ?_
  obtain ⟨hleft, hright, hcomma⟩ := hkeyword
  rw [List.append_assoc, List.singleton_append,
    Token.spell_between (he ts hts) (hf us hus) hleft hright hcomma, hj, Template.render_append,
    Template.render_append, Template.constants_append, Token.constants_spell]
  have hkeyword : Template.constants [.text " ", .text keyword, .text " "] = [] := rfl
  rw [hkeyword, List.append_nil, Template.render_text_cons, Template.render_text_cons,
    Template.render_text_cons, Template.render_nil, String.append_empty]
  simp only [String.append_assoc]

theorem notIf (negated : Bool) (hx : Writes d x e) :
    Writes d (do
        if negated then write "NOT "
        Predicate.draftEnclosed x)
      (.write (Predicate.notIf negated) ++ Predicate.enclose true e) := by
  cases negated with
  | false => exact hx.enclosed
  | true =>
    refine hx.enclosed.write_bind rfl fun ts hts start ↦ ?_
    obtain ⟨us, -, rfl⟩ := Predicate.enclose_eq_write hts
    have hspell : Token.spell ([.not] ++ Token.enclose true us) =
        .text "NOT" :: .text " " :: Token.spell (Token.enclose true us) :=
      Token.spell_cons_cons .not .leftParen _
    rw [Predicate.notIf, if_pos rfl, hspell, Template.render_text_cons, Template.render_text_cons,
      ← String.append_assoc]
    rfl

end Writes

namespace Predicate

variable (d : Dialect)

theorem constants_listed (vs : List Value) : Token.constants (listed vs) = vs.map .value := by
  induction vs with
  | nil => rfl
  | cons v vs ih =>
    cases vs with
    | nil => rfl
    | cons w vs => exact congrArg (Constant.value v :: ·) ih

theorem render_spell_listed (start : Nat) (vs : List Value) :
    Template.render d start (Token.spell (listed vs)) =
      ", ".intercalate (vs.mapIdx fun i _ ↦ d.reference (start + i)) := by
  refine Template.render_eq_intercalate (t := fun vs ↦ Token.spell (listed vs))
    (f := fun _ r ↦ r) rfl (fun v start ↦ ?_) (fun v w vs start ↦ ?_) start vs
  · simp [listed, Token.spell, Token.piece]
  · obtain ⟨rest, hrest⟩ : ∃ rest, listed (w :: vs) = .constant (.value w) :: rest := by
      cases vs with
      | nil => exact ⟨[], rfl⟩
      | cons u vs => exact ⟨_, rfl⟩
    have hlisted : listed (v :: w :: vs) = .constant (.value v) :: .comma :: listed (w :: vs) := rfl
    have hseparator (s : String) : "," ++ (" " ++ s) = ", " ++ s := String.append_assoc.symm
    rw [hlisted, hrest, Token.spell_cons_cons, Token.spell_cons_cons]
    simp [Token.spaced, Token.piece, String.append_assoc, hseparator]

theorem writes_draftNullTest (name : String) (negated : Bool) :
    Writes d (draftNullTest name negated) (.write (nullTest name negated)) := by
  refine .text (by cases negated <;> rfl) fun start ↦ ?_
  cases negated <;> simp [nullTest, notIf, Token.spell, Token.spaced, Token.piece]

theorem writes_draftComparison (op : CompareOp) (name : String) (v : Value) (memberFirst : Bool) :
    Writes d (draftComparison d op name v memberFirst) (emitComparison op name v memberFirst) := by
  refine .named name ?_
  by_cases hnull : v.isNull
  · rw [if_pos hnull, if_pos hnull]
    cases op with
    | eq => exact writes_draftNullTest d name false
    | ne => exact writes_draftNullTest d name true
    | _ => exact .fail _
  · rw [if_neg hnull, if_neg hnull]
    cases memberFirst with
    | true =>
      refine .bound (c := .value v) (s := fun r ↦ name ++ " " ++ op.sql ++ " " ++ r) rfl
        fun start ↦ ?_
      simp [Token.spell, Token.spaced, Token.piece, String.append_assoc]
    | false =>
      refine .bound (c := .value v) (s := fun r ↦ r ++ " " ++ op.sql ++ " " ++ name) rfl
        fun start ↦ ?_
      simp [Token.spell, Token.spaced, Token.piece, String.append_assoc]

theorem writes_draftCompare (op : CompareOp) (l r : Predicate) :
    Writes d (draftCompare d op l r) (emitCompare op l r) := by
  cases l with
  | member name =>
    cases r with
    | literal v => exact writes_draftComparison d op name v true
    | _ => exact .fail _
  | literal v =>
    cases r with
    | member name => exact writes_draftComparison d op name v false
    | _ => exact .fail _
  | _ => exact .fail _

theorem writes_draftIn (name : String) (vs : List Value) (negated : Bool) :
    Writes d (draftIn d name vs negated) (emitIn name vs negated) := by
  refine .named name ?_
  by_cases hempty : vs.isEmpty
  · rw [if_pos hempty, if_pos hempty]
    exact .fail _
  · rw [if_neg hempty, if_neg hempty]
    refine .listed (s := fun rs ↦ name ++ " " ++ notText negated ++ "IN (" ++
      ", ".intercalate rs ++ ")") ?_ fun start ↦ ?_
    · simp only [Token.constants_append, constants_listed]
      cases negated <;> simp [notIf, Token.constants]
    · rw [Token.spell_append_rightParen, Template.render_append]
      refine String.toList_injective ?_
      cases negated <;>
        simp [notIf, notText, Token.spell_cons_cons, Token.spell_leftParen_cons, Token.spaced,
          Token.piece, render_spell_listed]

theorem writes_draftLike (kind : StringMatch) (name literal : String) (negated : Bool) :
    Writes d (draftLike d kind name literal negated) (emitLike kind name literal negated) := by
  refine .named name <| .bound (c := .value (.string (kind.pattern literal)))
    (s := fun r ↦ name ++ " " ++ notText negated ++ "LIKE " ++ r) ?_ fun start ↦ ?_
  · cases negated <;> rfl
  · refine String.toList_injective ?_
    cases negated <;> simp [notIf, notText, Token.spell, Token.spaced, Token.piece]

theorem writes_draftBool (name : String) (b : Option Bool) (negated : Bool) :
    Writes d (draftBool d name b negated) (emitBool name b negated) := by
  refine .named name ?_
  cases b with
  | none => exact writes_draftNullTest d name negated
  | some b =>
    refine .bound (c := .flag b)
      (s := fun r ↦ name ++ " " ++ (if negated then "<>" else "=") ++ " " ++ r) rfl fun start ↦ ?_
    refine String.toList_injective ?_
    cases negated <;> simp [Token.spell, Token.spaced, Token.piece, CompareOp.sql]

variable {d}

theorem writes_draftOperand (p : Predicate) {x : Drafting Unit} {e : Emission}
    (hx : Writes d x e) : Writes d (draftOperand p x) (enclose p.isFlat e) := by
  rw [draftOperand]
  cases p.isFlat with
  | false => exact hx
  | true => exact hx.enclosed

theorem standFree_enclose {p : Predicate} {parens : Bool} {ts : List Token}
    (h : enclose parens (p.emit false) = .write ts) : Token.StandFree ts := by
  obtain ⟨us, hus, rfl⟩ := enclose_eq_write h
  exact (standFree_emit hus).enclose parens

section Connectives

variable {l r : Predicate} {x y : Drafting Unit} {j : Token} {keyword : String}

theorem writes_draftGrouped (negated : Bool) (hl : Writes d x (l.emit false))
    (hr : Writes d y (r.emit false)) (hj : j.piece = .text keyword)
    (hkeyword : j ≠ .leftParen ∧ j ≠ .rightParen ∧ j ≠ .comma) :
    Writes d (draftGrouped keyword negated (draftOperand l x) (draftOperand r y))
      (.write (notIf negated) ++ enclose true (enclose l.isFlat (l.emit false) ++ .write [j] ++
        enclose r.isFlat (r.emit false))) :=
  ((writes_draftOperand l hl).joined (writes_draftOperand r hr) (fun _ ↦ standFree_enclose)
    (fun _ ↦ standFree_enclose) hj hkeyword).notIf negated

theorem writes_draftFlat (negated : Bool) (hl : Writes d x (l.emit false))
    (hr : Writes d y (r.emit false)) (hj : j.piece = .text keyword)
    (hkeyword : j ≠ .leftParen ∧ j ≠ .rightParen ∧ j ≠ .comma) :
    Writes d (draftFlat keyword negated x y)
      (.write (notIf negated) ++ enclose negated (l.emit false ++ .write [j] ++ r.emit false)) := by
  have hjoined := hl.joined hr (fun _ ↦ standFree_emit) (fun _ ↦ standFree_emit) hj hkeyword
  cases negated with
  | false => exact hjoined
  | true => exact hjoined.notIf true

end Connectives

/-- **Writing a predicate in one go gives the text of its tokens.** -/
theorem writes_draft (p : Predicate) (negated : Bool) :
    Writes d (p.draft d negated) (p.emit negated) := by
  -- a negation turns the sign around, and below a group it starts over
  induction p generalizing negated with
  | member name | literal v => exact .fail _
  | not p ih => exact ih !negated
  | and l r ihl ihr | or l r ihl ihr =>
    exact writes_draftGrouped negated (ihl false) (ihr false) rfl ⟨nofun, nofun, nofun⟩
  | flatAnd l r ihl ihr | flatOr l r ihl ihr =>
    exact writes_draftFlat negated (ihl false) (ihr false) rfl ⟨nofun, nofun, nofun⟩
  | compare op l r => exact writes_draftCompare d _ l r
  | like kind name s => exact writes_draftLike d kind name s negated
  | inSet name vs => exact writes_draftIn d name vs negated
  | boolEquals name b => exact writes_draftBool d name b negated

theorem writes_emitAll (ps : List Predicate) :
    Writes d (match conjunction? ps with
      | some p => p.draft d false
      | none => pure ()) (emitAll ps) := by
  rw [emitAll]
  cases conjunction? ps with
  | some p => exact writes_draft p false
  | none => exact .nothing

/-- Writing a condition gives its text or its error, and binds the same values. -/
theorem draftCondition_apply (ps : List Predicate) (bound : List Value) (sql : String) :
    draftCondition d ps ⟨.ofValues bound, sql⟩ =
      ((toCondition d bound ps).1, ⟨.ofValues (toCondition d bound ps).2, sql⟩) := by
  have hwrites := writes_emitAll (d := d) ps
  rw [toCondition, draftCondition]
  -- the text is written apart from what is there already
  generalize emitAll ps = e at hwrites ⊢
  obtain ⟨ts, _ | err⟩ := e
  · refine (writtenBy_of_ok (hwrites bound "") sql).trans ?_
    rw [String.empty_append]
    rfl
  · obtain ⟨sql', hrun⟩ := hwrites bound ""
    exact writtenBy_of_error hrun sql

theorem exists_draftCondition_eq_error {ps : List Predicate} {err : Error}
    (h : (emitAll ps).toExcept = .error err) (bound : List Value) (sql : String) :
    ∃ w, draftCondition d ps ⟨.ofValues bound, sql⟩ = (.error err, w) := by
  rw [draftCondition_apply, toCondition, h]
  exact ⟨_, rfl⟩

end Predicate

end QueryChain
