import QueryChain.CommandLine.Run
import QueryChain.Proofs.Execution.Protocol
import QueryChain.Proofs.Execution.Spared

/-!
# The connection of a run

The command asks a database for the answer to one terminal, and closes the connection whatever came
of it. `CommandLine.resultText_eq` says that the terminal is one of the operations of a context, and
so it makes the calls of that operation: opening at most, and never closing. What closing finds in a
scripted database is what the operation found there, apart from the open connection, so that the end
of a run is known from the script and from how the operation ended: `CommandLine.execute_closes`.
-/

namespace QueryChain

variable {σ γ : Type}

/-! ## Terminals as operations -/

/-- The operation that the command runs for a terminal. A condition of the terminal itself is not
used; the command gives none. -/
def Terminal.operation (q : Query) : Terminal → Operation
  | toList => .toList q
  | count _ => .count q none
  | first _ => .first q none
  | firstOrDefault _ => .firstOrDefault q none

/-- The rows in an answer that consists of rows. -/
def Answer.rows? : Answer γ → Option (List Row)
  | .rows rs => some rs
  | .row r => some [r]
  | .row? r => some r.toList
  | .total _ | .changed _ | .stream _ => none

namespace CommandLine

/-- What is printed of an answer. No terminal is answered with a number of changed rows or with a
stream. -/
def answerText (f : Format) (colored : Bool) : Answer γ → String
  | .rows rows => f.text colored rows
  | .total n => line ((Style.bold.and .cyan).paint colored (toString n.toInt))
  | .row r => f.text colored [r]
  | .row? r => f.text colored r.toList
  | .changed _ | .stream _ => ""

section

variable (ctx : Context σ γ) (q : Query) (t : Terminal) (f : Format) (colored : Bool)

theorem resultText_eq :
    resultText ctx q t f colored =
      answerText f colored <$> ctx.runAsync .none (t.operation q) := by
  cases t <;>
    simp only [resultText, Terminal.operation, Context.runAsync, map_eq_pure_bind, bind_assoc,
      pure_bind] <;>
    rfl

/-! ## Results leave a text behind -/

theorem line_ne_empty (text : String) : line text ≠ "" := by
  intro h
  have hlist := congrArg String.toList h
  simp [line] at hlist

theorem append_ne_empty {x y : String} (h : y ≠ "") : x ++ y ≠ "" :=
  fun hxy ↦ h (String.append_eq_empty_iff.mp hxy).2

/-- Without rows there is a line that says so. -/
theorem text_ne_empty (rows : List Row) : f.text colored rows ≠ "" := by
  cases rows with
  | nil =>
    rw [Format.text_nil]
    exact line_ne_empty _
  | cons r rs =>
    cases f with
    | table =>
      rw [Format.text_table_cons, Table.text]
      exact append_ne_empty (line_ne_empty _)
    | json =>
      rw [Format.text_json_cons]
      exact line_ne_empty _

theorem answerText_of_rows? {a : Answer γ} {rows : List Row} (h : a.rows? = some rows) :
    answerText f colored a = f.text colored rows := by
  cases a with
  | rows | row | row? =>
    cases h
    rfl
  | total | changed | stream => cases h

variable {ctx q t} {token : CancellationToken σ} {s : σ} {a : Answer γ}

/-- A terminal is answered with a number or with rows. -/
theorem total_or_rows (h : (ctx.runAsync token (t.operation q) s).1 = .ok a) :
    (∃ n, a = .total n) ∨ ∃ rows, a.rows? = some rows := by
  have hmapped {α : Type} {g : α → Answer γ} {x : Action σ α}
      (h : ((g <$> x) s).1 = .ok a) : ∃ b, g b = a := by
    rw [Action.map_apply] at h
    rcases hx : (x s).1 with e | b <;> rw [hx] at h
    · cases h
    · exact ⟨b, Except.ok.inj h⟩
  cases t with
  | toList | first | firstOrDefault =>
    obtain ⟨b, rfl⟩ := hmapped h
    exact .inr ⟨_, rfl⟩
  | count =>
    obtain ⟨n, rfl⟩ := hmapped h
    exact .inl ⟨n, rfl⟩

theorem answerText_ne_empty (h : (ctx.runAsync token (t.operation q) s).1 = .ok a) :
    answerText f colored a ≠ "" := by
  rcases total_or_rows h with ⟨n, rfl⟩ | ⟨rows, hrows⟩
  · exact line_ne_empty _
  · rw [answerText_of_rows? f colored hrows]
    exact text_ne_empty f colored rows

end

/-! ## Closing -/

/-- What a run leaves behind, by what came of its operation and of closing the connection: the error
of the operation comes before that of closing, and a result is printed whatever came of closing. -/
def report (f : Format) (colored : Bool) : Except Error (Answer γ) → Except Error Unit → Outcome
  | .error e, _ => .failed colored "" (.error e)
  | .ok a, .error e => .failed colored (answerText f colored a) (.error e)
  | .ok a, .ok () => { stdout := answerText f colored a }

theorem stdout_report (f : Format) (colored : Bool) (answered : Except Error (Answer γ))
    (closed : Except Error Unit) :
    (report f colored answered closed).stdout =
      (answered.toOption.map (answerText f colored)).getD "" := by
  rcases answered with e | a <;> rcases closed with e' | ⟨⟩ <;> rfl

section

variable (ctx : Context σ γ) (q : Query) (t : Terminal) (f : Format) (colored : Bool) (s : σ)

/-- A run is its operation, after which the connection is closed if it is open. -/
theorem execute_eq :
    execute ctx q t f colored s =
      let answered := ctx.runAsync .none (t.operation q) s
      (report f colored answered.1 (ctx.close answered.2).1, (ctx.close answered.2).2) := by
  simp only [execute, resultText_eq, Action.map_apply, Context.closeAsync_eq]
  rcases ctx.runAsync .none (t.operation q) s with ⟨answered, s₁⟩
  dsimp only
  rcases ctx.close s₁ with ⟨closed, s'⟩
  rcases answered with e | a <;> rcases closed with e' | ⟨⟩ <;> rfl

/-- **What a run prints.** Nothing of a failed operation; of an answer, the number, or a remark that
there are no rows, or all rows in the format that was asked for. Nothing else is printed of it, and
closing changes nothing about it. -/
theorem execute_prints :
    let answered := (ctx.runAsync .none (t.operation q) s).1
    let printed := (execute ctx q t f colored s).1.stdout
    (∃ e, answered = .error e ∧ printed = "") ∨
      (∃ n, answered = .ok (.total n) ∧
        printed = line ((Style.bold.and .cyan).paint colored (toString n.toInt))) ∨
      ∃ a rows, answered = .ok a ∧ a.rows? = some rows ∧
        (rows = [] → printed = line (Style.dimmed.paint colored "(no results)")) ∧
        (rows ≠ [] → f = .table → printed = (Table.ofRows rows).text colored) ∧
        (rows ≠ [] → f = .json → printed = line ((Json.array (rows.map Row.toJson)).pretty 0)) := by
  intro answered printed
  have hprinted : printed = (report f colored answered _).stdout :=
    congrArg (fun ended ↦ ended.1.stdout) (execute_eq ctx q t f colored s)
  rw [stdout_report] at hprinted
  rcases h : answered with e | a
  · rw [h] at hprinted
    exact .inl ⟨e, rfl, hprinted⟩
  · rw [h] at hprinted
    rcases total_or_rows h with ⟨n, rfl⟩ | ⟨rows, hrows⟩
    · exact .inr (.inl ⟨n, rfl, hprinted⟩)
    · have htext : printed = f.text colored rows :=
        hprinted.trans (answerText_of_rows? f colored hrows)
      refine .inr (.inr ⟨a, rows, rfl, hrows, ?_, ?_, ?_⟩)
      · rintro rfl
        exact htext.trans (f.text_nil colored)
      · rintro hne rfl
        obtain ⟨r, rs, rfl⟩ := List.exists_cons_of_ne_nil hne
        exact htext.trans (Format.text_table_cons colored r rs)
      · rintro hne rfl
        obtain ⟨r, rs, rfl⟩ := List.exists_cons_of_ne_nil hne
        exact htext.trans (Format.text_json_cons colored r rs)

/-- One row, as a table. -/
example :
    let s : Script := { replies := [.rows [[("Id", .int32 7), ("Name", .string "Alex")]] none] }
    let users : Query := ⟨.table "Users", []⟩
    let ended := execute ⟨Script.backend, .postgres⟩ users (.first none) .table false s
    ended.1.stdout = "Id │ Name\n───┼─────\n7  │ Alex\n\n1 row(s) returned\n" := by
  decide +kernel

/-- The calls of a run are those of its operation, and one more if they leave the connection open.
-/
theorem execute_recorded (l : List Call) :
    execute ctx.recorded q t f colored (s, l) =
      ((execute ctx q t f colored s).1, (execute ctx q t f colored s).2,
        l ++ ctx.dueCalls (.async (t.operation q) .none) s ++
          if ctx.backend.isOpen (ctx.runAsync .none (t.operation q) s).2 then [.closeConnection]
          else []) := by
  have hrun : ctx.recorded.runAsync .none (t.operation q) (s, l) = _ :=
    ctx.runAsync_records .none (t.operation q) s l
  simp only [execute_eq, hrun, ctx.close_records _]

end

end CommandLine

/-- Nothing but closing closes a connection. -/
theorem Context.closeConnection_not_mem_dueCalls (ctx : Context σ γ) (i : Invocation σ) (s : σ) :
    .closeConnection ∉ ctx.dueCalls i s := by
  have hcommand (t : Statement) (k : CommandKind) : .closeConnection ≠ k.call t := by
    cases k <;> exact fun h ↦ nomatch h
  generalize hcalls : ctx.dueCalls i s = calls
  have hproceeds := hcalls ▸ ctx.proceeds_dueCalls i s
  cases hproceeds <;> simp [hcommand]

/-! ## Scripted databases -/

namespace Script

variable (d : Dialect) (s : Script)

/-- What comes of closing, by whether the connection is open and how closing it fails. -/
def closeResult : Bool → Option String → Except Error Unit
  | true, some m => .error (.driver m)
  | _, _ => .ok ()

theorem close_fst :
    (Context.close ⟨backend, d⟩ s).1 = closeResult s.isOpen s.closeFailure := by
  rcases s with ⟨replies, _ | _, opens, closes, openFailure, _ | m⟩ <;> rfl

theorem isOpen_close :
    (Context.close ⟨backend, d⟩ s).2.isOpen = (s.isOpen && s.closeFailure.isSome) := by
  rcases s with ⟨replies, _ | _, opens, closes, openFailure, _ | m⟩ <;> rfl

theorem closes_close :
    (Context.close ⟨backend, d⟩ s).2.closes = s.closes + if s.isOpen then 1 else 0 := by
  rcases s with ⟨replies, _ | _, opens, closes, openFailure, _ | m⟩ <;> rfl

end Script

namespace CommandLine

open Script

/-- **A run closes its connection.** It calls for closing once if its operation leaves the
connection open, and not at all otherwise. The connection is open at the end only if closing it
failed. The error of the operation is reported whatever came of closing, that of closing if there is
no other, and something is printed exactly if the operation succeeded. -/
theorem execute_closes (d : Dialect) (q : Query) (t : Terminal) (f : Format) (colored : Bool)
    (s : Script) :
    let ctx : Context Script Cursor := ⟨backend, d⟩
    let terminal : Invocation Script := .async (t.operation q) .none
    let answered := ctx.invoke terminal s
    let ended := execute ctx q t f colored s
    (execute ctx.recorded q t f colored (s, []) =
        (ended.1, ended.2, ctx.calls terminal s ++
          if answered.2.isOpen then [.closeConnection] else []) ∧
      .closeConnection ∉ ctx.calls terminal s ∧
      ended.2.closes = s.closes + if answered.2.isOpen then 1 else 0) ∧
    (ended.2.isOpen = true ↔ answered.2.isOpen = true ∧ s.closeFailure.isSome = true) ∧
    ended.1 = report f colored answered.1 (closeResult answered.2.isOpen s.closeFailure) ∧
    (ended.1.stdout = "" ↔ ∃ e, answered.1 = .error e) := by
  intro ctx terminal answered ended
  have hkept : answered.2.closing = s.closing :=
    ctx.runAsync_keeps spares_closing .none (t.operation q) s
  obtain ⟨hcloses, hfailure⟩ : answered.2.closes = s.closes ∧
      answered.2.closeFailure = s.closeFailure := Prod.ext_iff.mp hkept
  have hended : ended = (report f colored answered.1 (ctx.close answered.2).1,
      (ctx.close answered.2).2) := execute_eq ctx q t f colored s
  refine ⟨⟨?_, ?_, ?_⟩, ?_, ?_, ?_⟩
  · rw [ctx.calls_eq_dueCalls]
    exact execute_recorded ctx q t f colored s []
  · rw [ctx.calls_eq_dueCalls]
    exact ctx.closeConnection_not_mem_dueCalls terminal s
  · rw [hended, closes_close, hcloses]
  · rw [hended, isOpen_close, hfailure, Bool.and_eq_true]
  · rw [hended, close_fst, hfailure]
  · rw [hended, stdout_report]
    rcases h : answered.1 with e | a
    · exact iff_of_true rfl ⟨e, rfl⟩
    · exact iff_of_false (answerText_ne_empty f colored h) fun ⟨e, he⟩ ↦ nomatch he

/-- A fetch fails and then closing does: the fetch is reported, and the connection stays open. -/
example :
    let s : Script := { replies := [.rows [] (some "lost")], closeFailure := some "busy" }
    let ended := execute ⟨backend, .postgres⟩ ⟨.table "Users", []⟩ .toList .json false s
    ended.1 = .failed false "" (.error (.driver "lost")) ∧ ended.2.isOpen ∧ ended.2.closes = 1 := by
  decide +kernel

end CommandLine

end QueryChain
