import CaretReport.Proofs.Report.Ending

/-!
# When nothing decides whether to paint

A stream that is asked for its terminal can raise an exception that is not tolerated. With neither
variable set it is asked, and then nothing decides whether to paint (`Painter.Undecided`): the
exception is passed on. A report without a painter of its own ends there, before its first write,
and asking makes no report fail in any other way: `Reporter.write_undecided`.
-/

namespace CaretReport

namespace Stream

variable {s : Stream} {e : Exception}

/-- The stream has no answer when it is asked for its terminal: it cannot be asked, or it fails. -/
def Mute (s : Stream) : Prop := s.terminal = .unknown ∨ ∃ e, s.isTerminal = .error e

theorem isTerminal_of_trouble (h : s.terminal = .trouble e) : s.isTerminal = .error e := by
  simp only [isTerminal, h]

theorem Mute.not_isTerminal (h : s.Mute) : ¬ (s.terminal = .yes ∧ s.closed = false) := by
  rintro ⟨hyes, hopen⟩
  rcases h with hunknown | ⟨e, he⟩
  · rw [hyes] at hunknown
    cases hunknown
  · rw [isTerminal_eq_true_iff.2 ⟨hyes, hopen⟩] at he
    cases he

end Stream

namespace Painter

/-- Neither variable is set, and the stream raises an exception that is not tolerated when it is
asked. -/
structure Undecided (env : Environment) (s : Stream) (e : Exception) : Prop where
  unrefused : env.isSet "NO_COLOR" = false
  unforced : env.isSet "FORCE_COLOR" = false
  trouble : s.terminal = .trouble e
  untolerated : e.isTolerated = false

variable {env : Environment} {s : Stream} {e : Exception} {enabled : Bool}

theorem isWanted_of_undecided (h : Undecided env s e) : isWanted env s none = .error e := by
  simp only [isWanted, h.unrefused, h.unforced, Stream.isTerminal_of_trouble h.trouble,
    h.untolerated,
    Bool.false_eq_true, ↓reduceIte]

theorem exists_isWanted_iff :
    (∃ enabled, isWanted env s none = .ok enabled) ↔ ¬ ∃ e, Undecided env s e := by
  refine ⟨fun ⟨enabled, hwanted⟩ ⟨e, h⟩ => ?_, fun h => ?_⟩
  · rw [isWanted_of_undecided h] at hwanted
    cases hwanted
  rcases hno : env.isSet "NO_COLOR" with _ | _
  · rcases hforce : env.isSet "FORCE_COLOR" with _ | _
    · refine exists_isWanted env fun e he => ?_
      rw [← Bool.not_eq_false]
      exact fun htol => h ⟨e, hno, hforce, he, htol⟩
    · exact ⟨true, by simp only [isWanted, hno, hforce]; rfl⟩
  · exact ⟨false, by simp only [isWanted, hno]; rfl⟩

/-- With neither variable set, a stream without an answer is not painted on. -/
theorem eq_false_of_mute (hno : env.isSet "NO_COLOR" = false)
    (hforce : env.isSet "FORCE_COLOR" = false) (hs : s.Mute)
    (h : isWanted env s none = .ok enabled) : enabled = false := by
  have hunset : ∀ {name}, env.isSet name = false → ∀ v, (name, v) ∉ env.entries := by
    intro name hname v hv
    rw [Environment.isSet_iff.2 ⟨v, hv⟩] at hname
    cases hname
  have hasked := (settled_of_isWanted h).asked (hunset hno) (hunset hforce)
  exact Bool.eq_false_iff.2 (mt hasked.1 hs.not_isTerminal)

end Painter

namespace Reporter

variable {r : Reporter} {host : Host} {env : Environment} {d : Diagnostic} {source : Option Buffer}
  {s : Stream} {e : Exception}

theorem write_of_undecided (host : Host) (d : Diagnostic) (source : Option Buffer)
    (hnone : r.painter = none) (h : Painter.Undecided env s e) :
    r.write host env d source s = ⟨.error (.stream e), s, []⟩ := by
  have hp : r.painterOn env s = .error e := by
    rw [painterOn, hnone]
    dsimp only
    rw [Painter.ofStream, Painter.isWanted_of_undecided h]
    rfl
  rw [write, hp]
  exact fail_of_not_tolerated (f := .stream e) h.untolerated host.machine d s

/-- What a report raises at the end of its script is an exception of its own. -/
theorem conclude_result_ne (m : Machine) (d : Diagnostic) (s : Stream)
    (result : Except Exception (List LogRecord)) (e : Exception) :
    (conclude m d s result).result ≠ .error (.stream e) := by
  intro h
  cases result with
  | ok logs => cases h
  | error f =>
    rw [conclude, fail] at h
    split at h
    · split at h <;> cases h
    · cases h

theorem write_result_ne (hnone : r.painter = none) (h : ¬ ∃ e, Painter.Undecided env s e)
    (htakes : s.Takes (r.script host d source).pieces.length) (e : Exception) :
    (r.write host env d source s).result ≠ .error (.stream e) := by
  obtain ⟨enabled, hwanted⟩ := Painter.exists_isWanted_iff.2 h
  rw [write_eq (painterOn_of_isWanted hnone hwanted), perform_of_takes htakes]
  exact conclude_result_ne host.machine d s _ e

/-- Whether to paint is decided, against painting if the stream that has to be asked is mute, unless
the environment and the stream leave it undecided. Then the exception of the stream is passed on,
and a report without a painter ends with it before its first write. If no write is refused, no other
report fails for its stream. -/
theorem write_undecided (host : Host) (env : Environment) (s : Stream) :
    ((∃ enabled, Painter.isWanted env s none = .ok enabled ∧
        (env.isSet "NO_COLOR" = false → env.isSet "FORCE_COLOR" = false → s.Mute →
          enabled = false)) ↔ ¬ ∃ e, Painter.Undecided env s e) ∧
      (∀ e, Painter.Undecided env s e → Painter.isWanted env s none = .error e) ∧
      ∀ (r : Reporter) (d : Diagnostic) (source : Option Buffer), r.painter = none →
        (∀ e, Painter.Undecided env s e →
          r.write host env d source s = ⟨.error (.stream e), s, []⟩) ∧
        (s.Takes (r.script host d source).pieces.length →
          ((∃ e, (r.write host env d source s).result = .error (.stream e)) ↔
            ∃ e, Painter.Undecided env s e)) := by
  refine ⟨⟨?_, fun h => ?_⟩, fun e => Painter.isWanted_of_undecided, fun r d source hnone => ?_⟩
  · rintro ⟨enabled, hwanted, -⟩
    exact Painter.exists_isWanted_iff.1 ⟨enabled, hwanted⟩
  · obtain ⟨enabled, hwanted⟩ := Painter.exists_isWanted_iff.2 h
    exact ⟨enabled, hwanted, fun hno hforce hs => Painter.eq_false_of_mute hno hforce hs hwanted⟩
  · refine ⟨fun e => write_of_undecided host d source hnone, fun htakes => ⟨?_, ?_⟩⟩
    · rintro ⟨e, he⟩
      by_contra h
      exact write_result_ne hnone h htakes e he
    · rintro ⟨e, h⟩
      rw [write_of_undecided host d source hnone h]
      exact ⟨e, rfl⟩

/-- Of two streams that fail when they are asked for their terminal, only the one whose trouble is
tolerated gets its report. -/
theorem write_undecided_two_troubles :
    let d : Diagnostic := ⟨"m", "a.yml", ⟨1, 1, by decide, by decide⟩, "k"⟩
    let e : Exception := .of .runtime "isatty failed"
    let s : Stream := { terminal := .trouble (.of .value "isatty failed") }
    let s' : Stream := { terminal := .trouble e }
    Painter.isWanted {} s none = .ok false ∧
      (¬ ∃ f, (write {} .usual {} d none s).result = .error (.stream f)) ∧
      write {} .usual {} d none s' = ⟨.error (.stream e), s', []⟩ := by
  intro d e s s'
  have hdecided : ¬ ∃ f, Painter.Undecided {} s f := by
    rintro ⟨f, h⟩
    have htrouble := h.trouble
    cases htrouble
    exact absurd h.untolerated (by decide)
  have htakes : s.Takes (script {} .usual d none).pieces.length := by
    rintro f ⟨k, -, hk⟩
    cases hk
  obtain ⟨hwanted, -, hwrite⟩ := write_undecided .usual {} s
  obtain ⟨enabled, henabled, hmute⟩ := hwanted.2 hdecided
  obtain rfl := hmute rfl rfl (.inr ⟨_, Stream.isTerminal_of_trouble rfl⟩)
  exact ⟨henabled, mt ((hwrite {} d none rfl).2 htakes).1 hdecided,
    ((write_undecided .usual {} s').2.2 {} d none rfl).1 e ⟨rfl, rfl, rfl, rfl⟩⟩

/-- Neither is it always decided whether to paint, nor does a report on a stream that takes every
write never fail for its stream. -/
theorem not_forall_isWanted_ok :
    (¬ ∀ (env : Environment) (s : Stream), ∃ enabled, Painter.isWanted env s none = .ok enabled) ∧
      ∀ host : Host, ¬ ∀ (r : Reporter) (env : Environment) (d : Diagnostic)
          (source : Option Buffer)
        (s : Stream) (e : Exception), r.painter = none → s.Sound →
        (r.write host env d source s).result ≠ .error (.stream e) := by
  let r : Reporter := {}
  let d : Diagnostic := ⟨"m", "a.yml", ⟨1, 1, by decide, by decide⟩, "k"⟩
  let s : Stream := { terminal := .trouble (.of .runtime "isatty failed") }
  have hundecided : Painter.Undecided {} s (.of .runtime "isatty failed") := ⟨rfl, rfl, rfl, rfl⟩
  refine ⟨fun hall => ?_, fun host hall => ?_⟩
  · exact Painter.exists_isWanted_iff.1 (hall {} s) ⟨_, hundecided⟩
  · have hwrite : r.write host {} d none s = _ := write_of_undecided host d none rfl hundecided
    exact hall r {} d none s _ rfl rfl (congrArg Outcome.result hwrite)

end Reporter

end CaretReport
