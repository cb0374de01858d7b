import CaretReport.Proofs.Report.Script

/-!
# Who decides whether a report is painted

A stream that can be asked for its terminal, or refuses in a tolerated way, always gets a painter
(`Painter.exists_isWanted`). If a reporter has none, environment and terminal settle one
(`Painter.Settled`): by the variables that are set, and only without them by the terminal. From then
on the report is that of a reporter with this painter. And if the reporter has one, neither the
environment nor the answer of the terminal leaves a trace, as long as the library does what it is
forced to do (`Colouring.Obeys`): `Reporter.write_settled`.
-/

namespace CaretReport

theorem Environment.isSet_iff {env : Environment} {name : Text} :
    env.isSet name = true ↔ ∃ v, (name, v) ∈ env.entries := by
  simp [isSet]

namespace Stream

variable {s : Stream} {e : Exception}

theorem isTerminal_eq_true_iff :
    s.isTerminal = .ok true ↔ s.terminal = .yes ∧ s.closed = false := by
  unfold isTerminal
  split
  · next h => simp [h]
  · next h => simp [h]
  · next h => cases hc : s.closed <;> simp [h]
  · next h => cases hc : s.closed <;> simp [h]

theorem isTolerated_of_isTerminal (hterminal : ∀ e, s.terminal = .trouble e → e.isTolerated = true)
    (he : s.isTerminal = .error e) : e.isTolerated = true := by
  unfold isTerminal at he
  split at he
  · next htrouble =>
    cases he
    exact hterminal e htrouble
  · cases he
  · split at he <;> cases he; rfl
  · split at he <;> cases he; rfl

end Stream

namespace Painter

/-- Whether text for a stream is painted if nobody chose: variables count by being set, whatever
their values, and before the terminal. A stream that cannot be asked is no terminal. -/
structure Settled (env : Environment) (s : Stream) (enabled : Bool) : Prop where
  refused : ∀ v, (("NO_COLOR" : Text), v) ∈ env.entries → enabled = false
  forced : (∀ v, (("NO_COLOR" : Text), v) ∉ env.entries) →
    ∀ v, (("FORCE_COLOR" : Text), v) ∈ env.entries → enabled = true
  asked : (∀ v, (("NO_COLOR" : Text), v) ∉ env.entries) →
    (∀ v, (("FORCE_COLOR" : Text), v) ∉ env.entries) →
    (enabled = true ↔ s.terminal = .yes ∧ s.closed = false)

variable {env : Environment} {s : Stream} {enabled : Bool}

theorem exists_isWanted (env : Environment)
    (hterminal : ∀ e, s.terminal = .trouble e → e.isTolerated = true) :
    ∃ enabled, isWanted env s none = .ok enabled := by
  unfold isWanted
  dsimp only
  split
  · exact ⟨false, rfl⟩
  split
  · exact ⟨true, rfl⟩
  split
  · next b _ => exact ⟨b, rfl⟩
  · next e he =>
    rw [Stream.isTolerated_of_isTerminal hterminal he]
    exact ⟨false, rfl⟩

theorem settled_of_isWanted (h : isWanted env s none = .ok enabled) : Settled env s enabled := by
  have hset : ∀ {name v}, (name, v) ∈ env.entries → env.isSet name = true := fun hv =>
    Environment.isSet_iff.2 ⟨_, hv⟩
  have hunset : ∀ {name}, (∀ v, (name, v) ∉ env.entries) → ¬ env.isSet name = true := fun hnone h =>
    (Environment.isSet_iff.1 h).elim hnone
  unfold isWanted at h
  dsimp only at h
  refine ⟨fun v hv => ?_, fun hno v hv => ?_, fun hno hforce => ?_⟩
  · rw [if_pos (hset hv)] at h
    cases h
    rfl
  · rw [if_neg (hunset hno), if_pos (hset hv)] at h
    cases h
    rfl
  · rw [if_neg (hunset hno), if_neg (hunset hforce)] at h
    rw [← Stream.isTerminal_eq_true_iff]
    rcases hanswer : s.isTerminal with e | b
    · rw [hanswer] at h
      dsimp only at h
      split at h <;> cases h
      simp
    · rw [hanswer] at h
      cases h
      simp

end Painter

/-- Forced to colour, the library looks at nothing around it. -/
structure Colouring.Obeys (colored : Colouring) : Prop where
  forced : ∀ env env' colour attributes t,
    colored env true colour attributes t = colored env' true colour attributes t

theorem Colouring.obeys_ansi : ansi.Obeys := by
  refine ⟨fun env env' colour attributes t => ?_⟩
  simp only [ansi, Bool.true_or, ↓reduceIte]

theorem Piece.render_anywhere {colored : Colouring} (h : colored.Obeys) (env env' : Environment)
    (p : Painter) (piece : Piece) : piece.render colored env p = piece.render colored env' p := by
  rcases piece with ⟨_ | role, t⟩
  · rfl
  · simp only [render, Painter.paint, h.forced env env']

namespace Reporter

open Report

variable {r : Reporter} {host : Host} {env : Environment} {d : Diagnostic} {source : Option Buffer}
  {s : Stream} {p : Painter} {enabled : Bool}

theorem painterOn_of_painter (h : r.painter = some p) : r.painterOn env s = .ok p := by
  rw [painterOn, h]

theorem painterOn_of_isWanted (h : r.painter = none)
    (hwanted : Painter.isWanted env s none = .ok enabled) :
    r.painterOn env s = .ok { enabled } := by
  rw [painterOn, h]
  dsimp only
  rw [Painter.ofStream, hwanted]
  rfl

theorem exists_painterOn (r : Reporter) (env : Environment)
    (hterminal : ∀ e, s.terminal = .trouble e → e.isTolerated = true) :
    ∃ p, r.painterOn env s = .ok p := by
  rcases h : r.painter with _ | p
  · obtain ⟨enabled, hwanted⟩ := Painter.exists_isWanted env hterminal
    exact ⟨{ enabled }, painterOn_of_isWanted h hwanted⟩
  · exact ⟨p, painterOn_of_painter h⟩

/-- A report is that of a reporter with the painter it gets. -/
theorem write_of_painterOn (hp : r.painterOn env s = .ok p) :
    r.write host env d source s =
      ({ r with painter := some p } : Reporter).write host env d source s := by
  have hp' : ({ r with painter := some p } : Reporter).painterOn env s = .ok p := rfl
  rw [write_eq hp, write_eq hp']
  rfl

theorem perform_terminal (m : Machine) (d : Diagnostic) (render : Piece → Text)
    (sc : Script (List LogRecord)) (s : Stream) (t : Terminal) :
    perform m d render sc { s with terminal := t } =
      { perform m d render sc s with
        stream := { (perform m d render sc s).stream with terminal := t } } := by
  rw [perform, perform, Stream.writeAll_terminal]
  rcases s.writeAll (sc.pieces.map render) with ⟨e | ⟨⟩, s⟩
  · dsimp only
    rw [fail_stream]
    exact fail_anywhere ..
  · dsimp only
    rw [conclude_stream]
    exact conclude_anywhere ..

/-- Without a painter, environment and terminal settle one, and the report is that of a reporter
with this painter. With a painter, reports in two environments, on streams that differ in the answer
of the terminal at most, are the same. -/
theorem write_settled (host : Host) (r : Reporter) (env : Environment) (d : Diagnostic)
    (source : Option Buffer) (s : Stream) :
    (r.painter = none → (∀ e, s.terminal = .trouble e → e.isTolerated = true) →
      ∃ enabled, Painter.Settled env s enabled ∧
        r.write host env d source s =
          ({ r with painter := some { enabled } } : Reporter).write host env d source s) ∧
      (host.colored.Obeys → ∀ p, r.painter = some p → ∀ (env' : Environment) (t : Terminal),
        r.write host env' d source { s with terminal := t } =
          { r.write host env d source s with
            stream := { (r.write host env d source s).stream with terminal := t } }) := by
  refine ⟨fun hnone hterminal => ?_, fun hobeys p hsome env' t => ?_⟩
  · obtain ⟨enabled, hwanted⟩ := Painter.exists_isWanted env hterminal
    exact ⟨enabled, Painter.settled_of_isWanted hwanted,
      write_of_painterOn (painterOn_of_isWanted hnone hwanted)⟩
  · have hrender : Piece.render host.colored env' p = Piece.render host.colored env p :=
      funext (Piece.render_anywhere hobeys env' env p)
    rw [write_eq (painterOn_of_painter hsome), write_eq (painterOn_of_painter hsome), hrender,
      perform_terminal]

/-- With both variables set, nothing is painted, on a terminal too. A painter that the caller chose
stays, on a stream too that could not even be asked. -/
theorem write_settled_overruled :
    let d : Diagnostic := ⟨"m", "a.yml", ⟨1, 1, by decide, by decide⟩, "k"⟩
    let source : Option Buffer := some (.bytes [0x61] (by decide))
    let env : Environment := { entries := [("FORCE_COLOR", "1"), ("NO_COLOR", "")], output := .yes }
    let trouble : Terminal := .trouble (.of .runtime "isatty failed")
    let painted : Reporter := { painter := some { enabled := true } }
    write {} .usual env d source { terminal := .yes } =
        write { painter := some { enabled := false } } .usual env d source { terminal := .yes } ∧
      painted.write .usual env d source { terminal := trouble } =
        { painted.write .usual {} d source {} with
          stream := { (painted.write .usual {} d source {}).stream with
            terminal := trouble } } := by
  intro d source env trouble painted
  constructor
  · obtain ⟨enabled, hsettled, hwrite⟩ :=
      (write_settled .usual {} env d source { terminal := .yes }).1 rfl (fun e he => by cases he)
    obtain rfl := hsettled.refused "" (by decide)
    exact hwrite
  · exact (write_settled .usual painted {} d source {}).2 Colouring.obeys_ansi _ rfl env trouble

end Reporter

end CaretReport
