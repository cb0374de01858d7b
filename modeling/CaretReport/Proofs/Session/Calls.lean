import CaretReport.Proofs.Report.Alignment
import CaretReport.Proofs.Report.Delivery
import CaretReport.Session.Run
import Mathlib.Data.List.Induction

/-!
# Reports in any order on any streams

A session that only asks for reports changes nothing but its streams, and each call changes one of
them. `Reached` keeps for every stream the history of the calls made to it; one call extends the
history of its own stream (`Reached.call`), so what a stream has received at the end depends on the
calls made to it alone, however they interleave with others: `run_calls`.
-/

namespace CaretReport

namespace Session

/-! ### Steps in a row -/

def State.after (host : Host) (st : State) (sts : List Step) : State :=
  sts.foldl (fun st x => (step host st x).2) st

theorem run_cons (host : Host) (st : State) (x : Step) (xs : List Step) :
    run host st (x :: xs) = (step host st x).1 :: run host (step host st x).2 xs := rfl

theorem run_append (host : Host) (st : State) (xs ys : List Step) :
    run host st (xs ++ ys) = run host st xs ++ run host (st.after host xs) ys := by
  induction xs generalizing st with
  | nil => rfl
  | cons x xs ih =>
    rw [List.cons_append, run_cons, run_cons, ih]
    rfl

theorem length_run (host : Host) (st : State) (xs : List Step) :
    (run host st xs).length = xs.length := by
  induction xs generalizing st with
  | nil => rfl
  | cons x xs ih => rw [run_cons, List.length_cons, ih, List.length_cons]

theorem getElem?_run_append_cons (host : Host) (st : State) (xs ys : List Step) (x : Step) :
    (run host st (xs ++ x :: ys))[xs.length]? = some (step host (st.after host xs) x).1 := by
  rw [run_append, List.getElem?_append_right (Nat.le_of_eq (length_run host st xs)), length_run,
    Nat.sub_self]
  rfl

theorem getLast?_run_concat (host : Host) (st : State) (xs : List Step) (x : Step) :
    (run host st (xs ++ [x])).getLast? = some (step host (st.after host xs) x).1 := by
  rw [run_append, List.getLast?_append]
  rfl

/-! ### Calls -/

/-- A report that a session is asked for, by the names of all that it needs. -/
structure Call where
  reporter : Text
  diagnostic : Text
  source : Option Buffer
  stream : Text

namespace Call

/-- The step that makes the call. -/
def step (c : Call) : Step := .report c.reporter c.diagnostic c.source c.stream

/-- The things that the names of a call stand for. -/
structure Resolves (c : Call) (st : State) (r : Reporter) (d : Diagnostic) (s : Stream) : Prop where
  reporter : st.reporter c.reporter = .ok r
  diagnostic : st.diagnostics.get? c.diagnostic = some d
  stream : st.streams.get? c.stream = some s

/-- The names of the call stand for something. -/
def Known (c : Call) (st : State) : Prop := ∃ r d s, c.Resolves st r d s

/-- The texts that the call writes to an unused stream of the same kind. -/
def texts (host : Host) (st : State) (c : Call) : List Text :=
  match st.reporter c.reporter, st.diagnostics.get? c.diagnostic, st.streams.get? c.stream with
  | .ok r, some d, some s => r.texts host st.environment d c.source s
  | _, _, _ => []

variable {host : Host} {st : State} {c : Call} {r : Reporter} {d : Diagnostic} {s : Stream}

theorem Resolves.texts_eq (h : c.Resolves st r d s) :
    c.texts host st = r.texts host st.environment d c.source s := by
  rw [texts, h.reporter, h.diagnostic, h.stream]

theorem Resolves.step_eq (h : c.Resolves st r d s) :
    Session.step host st c.step =
      st.finish c.stream s (r.write host st.environment d c.source s) := by
  have hact : act host st c.step =
      .ok (st.finish c.stream s (r.write host st.environment d c.source s)) := by
    simp only [step, act, known, h.reporter, h.diagnostic, h.stream]
    rfl
  rw [Session.step, hact]

end Call

/-- The texts of the calls that are made to one stream. -/
def received (host : Host) (st : State) (id : Text) (calls : List Call) : List Text :=
  (calls.filter (·.stream = id)).flatMap (Call.texts host st)

/-- No stream was written to yet, and all troubles that streams make are tolerated. -/
structure Ready (st : State) : Prop where
  unused : ∀ id s, st.streams.get? id = some s → s.Unused
  tolerable : ∀ id s, st.streams.get? id = some s → s.Tolerable

/-- The state `st'` comes from `st` by calls. -/
structure Reached (host : Host) (st : State) (calls : List Call) (st' : State) : Prop where
  same : st' = { st with streams := st'.streams }
  streams : ∀ id s, st.streams.get? id = some s →
    ∃ s', st'.streams.get? id = some s' ∧ s.Since (received host st id calls) s'

theorem Ready.of_entries {st : State}
    (h : ∀ e ∈ st.streams.entries, e.2.Unused ∧ e.2.Tolerable) : Ready st :=
  ⟨fun _ _ hs => (h _ (Named.mem_of_get? hs)).1, fun _ _ hs => (h _ (Named.mem_of_get? hs)).2⟩

variable {host : Host} {st st' : State} {calls calls' : List Call} {c : Call} {r : Reporter}
  {d : Diagnostic}
  {s : Stream} {id : Text}

theorem received_append (host : Host) (st : State) (id : Text) (calls calls' : List Call) :
    received host st id (calls ++ calls') =
      received host st id calls ++ received host st id calls' := by
  rw [received, List.filter_append, List.flatMap_append]
  rfl

theorem received_self (host : Host) (st : State) (c : Call) :
    received host st c.stream [c] = c.texts host st := by
  simp [received]

theorem received_of_ne (host : Host) (st : State) (h : c.stream ≠ id) :
    received host st id [c] = [] := by
  simp [received, h]

/-! ### Runs of calls -/

theorem reached_nil (hready : Ready st) : Reached host st [] st :=
  ⟨rfl, fun id s hs => ⟨s, hs, Stream.since_nil (hready.unused id s hs)⟩⟩

theorem Reached.resolves (h : Reached host st calls st') (hc : c.Resolves st r d s) :
    ∃ s', c.Resolves st' r d s' ∧ s.Since (received host st c.stream calls) s' := by
  obtain ⟨s', hs', hsince⟩ := h.streams c.stream s hc.stream
  refine ⟨s', ⟨?_, ?_, hs'⟩, hsince⟩
  · rw [h.same]
    exact hc.reporter
  · rw [h.same]
    exact hc.diagnostic

/-- The texts of a call are the same for its stream and for what became of it. -/
theorem Call.Resolves.texts_since {s' : Stream} {ts : List Text} (hc : c.Resolves st r d s)
    (h : s.Since ts s') : r.texts host st.environment d c.source s' = c.texts host st := by
  rw [hc.texts_eq, Reporter.texts, Reporter.texts, Stream.kin, Stream.kin, h.terminal_eq]

theorem Reached.call (h : Reached host st calls st') (hready : Ready st)
    (hc : c.Resolves st r d s) :
    Reached host st (calls ++ [c]) (step host st' c.step).2 := by
  obtain ⟨s', hc', hsince⟩ := h.resolves hc
  have htol := hsince.tolerable (hready.tolerable _ _ hc.stream)
  have henv : st'.environment = st.environment := by rw [h.same]
  rw [hc'.step_eq, henv]
  refine ⟨?_, fun id u hu => ?_⟩
  · rw [State.finish, h.same]
  by_cases hid : c.stream = id
  · subst hid
    rw [hc.stream] at hu
    cases hu
    refine ⟨_, Named.get?_insert_self .., ?_⟩
    rw [Reporter.write_stream r host st.environment d c.source htol, hc.texts_since hsince,
      received_append,
      received_self]
    exact hsince.offered _
  · obtain ⟨u', hu', husince⟩ := h.streams id u hu
    refine ⟨u', (Named.get?_insert_of_ne _ _ hid).trans hu', ?_⟩
    rw [received_append, received_of_ne host st hid, List.append_nil]
    exact husince

theorem reached_after (hready : Ready st) (hknown : ∀ c ∈ calls, c.Known st) :
    Reached host st calls (st.after host (calls.map Call.step)) := by
  induction calls using List.reverseRecOn with
  | nil => exact reached_nil hready
  | append_singleton calls c ih =>
    obtain ⟨r, d, s, hc⟩ := hknown c (by simp)
    have hreached := (ih fun c hmem => hknown c (by simp [hmem])).call hready hc
    rw [List.map_append, State.after, List.foldl_append]
    exact hreached

/-! ### One call of a run -/

namespace Call.Resolves

variable {before : Stream} {ts : List Text}

theorem stream_eq (hc : c.Resolves st r d s) (hs : s.Tolerable) (h : s.Since ts before) :
    (r.write host st.environment d c.source before).stream = before.offered (c.texts host st) := by
  rw [Reporter.write_stream r host st.environment d c.source (h.tolerable hs), hc.texts_since h]

theorem attempts_of_failed (hc : c.Resolves st r d s) (hs : s.Tolerable) (h : s.Since ts before)
    (hfail : before.written.length < before.attempts) :
    (r.write host st.environment d c.source before).attempts before = 1 := by
  have hne : c.texts host st ≠ [] := by
    rw [hc.texts_eq]
    exact Reporter.texts_ne_nil r host st.environment d c.source hs
  rw [Outcome.attempts, hc.stream_eq hs h, h.attempts_of_failed hfail hne, Nat.add_sub_cancel_left]

theorem delivered (hc : c.Resolves st r d s) (hs : s.Tolerable) (h : s.Since ts before) :
    Reporter.Delivered host r d c.source (c.texts host st) before
      (r.write host st.environment d c.source before) := by
  rw [← hc.texts_since h]
  exact Reporter.write_delivered r host st.environment d c.source (h.tolerable hs)

end Call.Resolves

theorem answer_call {pre post : List Call} (hready : Ready st) (hknown : ∀ c ∈ pre, c.Known st)
    (hc : c.Resolves st r d s) :
    ∃ before, s.Since (received host st c.stream pre) before ∧
      (run host st ((pre ++ c :: post).map Call.step))[pre.length]? =
        some (.written before (r.write host st.environment d c.source before)) := by
  have hreached : Reached host st pre _ := reached_after hready hknown
  obtain ⟨before, hc', hsince⟩ := hreached.resolves hc
  have hanswer := getElem?_run_append_cons host st (pre.map Call.step) (post.map Call.step) c.step
  have henv : (st.after host (pre.map Call.step)).environment = st.environment :=
    by rw [hreached.same]
  rw [List.length_map, hc'.step_eq, henv] at hanswer
  exact ⟨before, hsince, by rw [List.map_append, List.map_cons, hanswer]; rfl⟩

theorem answer_output (hready : Ready st) (hknown : ∀ c ∈ calls, c.Known st)
    (hs : st.streams.get? id = some s) :
    (run host st (calls.map Call.step ++ [.output id])).getLast? =
      some (.text (Stream.upTo s.limit (received host st id calls)).flatten) := by
  obtain ⟨s', hs', hsince⟩ := (reached_after hready hknown).streams id s hs
  rw [getLast?_run_concat, ← hsince.written]
  simp only [step, act, known, hs']
  rfl

/-- A run of calls on streams that may fail. Each call to a stream adds the texts that it would
write to an unused stream of the same kind, up to the limit of the stream, and a stream that failed
is tried once. How many these texts are and how the call ends goes by the diagnostic and the marker.
What a stream has received depends on the calls made to it only. -/
theorem run_calls (host : Host) (hready : Ready st) (hknown : ∀ c ∈ calls, c.Known st) :
    (∀ (pre : List Call) (c : Call) (post : List Call) (r : Reporter) (d : Diagnostic) (s : Stream),
      calls = pre ++ c :: post → c.Resolves st r d s →
      ∃ before o, (run host st (calls.map Call.step))[pre.length]? = some (.written before o) ∧
        before.written = Stream.upTo s.limit (received host st c.stream pre) ∧
        o.stream.written = Stream.upTo s.limit (received host st c.stream (pre ++ [c])) ∧
        (before.written.length < before.attempts → o.attempts before = 1) ∧
        Reporter.Delivered host r d c.source (c.texts host st) before o) ∧
      (∀ id s, st.streams.get? id = some s →
        (run host st (calls.map Call.step ++ [.output id])).getLast? =
          some (.text (Stream.upTo s.limit (received host st id calls)).flatten)) ∧
      (∀ (id : Text) (s : Stream) (calls' : List Call), st.streams.get? id = some s →
        (∀ c ∈ calls', c.Known st) →
        calls'.filter (·.stream = id) = calls.filter (·.stream = id) →
        (run host st (calls'.map Call.step ++ [.output id])).getLast? =
          (run host st (calls.map Call.step ++ [.output id])).getLast?) := by
  refine ⟨fun pre c post r d s hcalls hc => ?_, fun id s hs => answer_output hready hknown hs,
    fun id s calls' hs hknown' hfilter => ?_⟩
  · subst hcalls
    have hpre : ∀ c ∈ pre, c.Known st := fun c hmem => hknown c (List.mem_append_left _ hmem)
    obtain ⟨before, hsince, hanswer⟩ := answer_call hready hpre hc
    have htol := hready.tolerable _ _ hc.stream
    refine ⟨before, _, hanswer, hsince.written, ?_, hc.attempts_of_failed htol hsince,
      hc.delivered htol hsince⟩
    rw [hc.stream_eq htol hsince, received_append, received_self]
    exact (hsince.offered _).written
  · rw [answer_output hready hknown' hs, answer_output hready hknown hs, received,
      received, hfilter]

/-- One stream fails at its third write, the other is closed. -/
theorem run_calls_failing :
    let d : Diagnostic := ⟨"m", "a.yml", ⟨1, 1, by decide, by decide⟩, "k"⟩
    let st : State :=
      { streams := ⟨[("a", { failsAt := some 3 }), ("b", { closed := true })]⟩
        reporters := ⟨[("r", ⟨none, none, {}⟩)]⟩
        diagnostics := ⟨[("d", d)]⟩ }
    let call (id : Text) : Call := ⟨"r", "d", none, id⟩
    (run .usual st ([call "a", call "b", call "a"].map Call.step ++ [.output "a"])).getLast? =
      some (.text "a.yml:") := by
  intro d st call
  have hready : Ready st := by
    refine .of_entries fun e he => ?_
    rcases List.mem_pair.1 he with rfl | rfl
    · exact ⟨⟨rfl, rfl⟩, ⟨fun e he => (by cases he), fun _ => rfl⟩⟩
    · exact ⟨⟨rfl, rfl⟩, ⟨fun e he => (by cases he), fun _ => rfl⟩⟩
  have ha : (call "a").Known st := ⟨_, _, _, rfl, rfl, rfl⟩
  have hb : (call "b").Known st := ⟨_, _, _, rfl, rfl, rfl⟩
  have hknown : ∀ c ∈ [call "a", call "b", call "a"], c.Known st := by
    simp [ha, hb]
  have htext : (Stream.upTo (some 2)
      (received .usual st "a" [call "a", call "b", call "a"])).flatten = "a.yml:" := by
    decide +kernel
  have houtput := (run_calls .usual hready hknown).2.1 "a" { failsAt := some 3 } rfl
  exact houtput.trans (congrArg (some ∘ Answer.text) htext)

/-! ### Calls that do not end quietly -/

/-- A session with one reporter, which does not paint, one diagnostic and one unused stream. -/
def State.single (width : Option Width) (d : Diagnostic) : State where
  store := [{ enabled := false }]
  streams := ⟨[("s", {})]⟩
  reporters := ⟨[("r", ⟨some 0, width, {}⟩)]⟩
  diagnostics := ⟨[("d", d)]⟩

/-- The call that there is to make in it. -/
def Call.single (source : Option Buffer) : Call := ⟨"r", "d", source, "s"⟩

theorem ready_single (width : Option Width) (d : Diagnostic) : Ready (.single width d) := by
  refine .of_entries fun e he => ?_
  rw [List.mem_singleton.1 he]
  exact ⟨⟨rfl, rfl⟩, ⟨fun e he => (by cases he), fun h => absurd rfl h⟩⟩

theorem resolves_single (width : Option Width) (d : Diagnostic) (source : Option Buffer) :
    (Call.single source).Resolves (.single width d)
      { painter := some { enabled := false }, width } d {} := ⟨rfl, rfl, rfl⟩

theorem run_single (host : Host) (width : Option Width) (d : Diagnostic) (source : Option Buffer) :
    run host (.single width d) [(Call.single source).step] =
      [.written {} (({ painter := some { enabled := false }, width } : Reporter).write host {} d
        source {})] := by
  rw [run_cons, (resolves_single width d source).step_eq]
  rfl

/-- Not every call ends quietly, on no host: a width can be too low for a repetition. And a gap can
be too wide for the memory of a machine, and a number too long to be written. -/
theorem not_forall_run_ok :
    (∀ host : Host, ¬ ∀ (st : State) (calls : List Call), Ready st → (∀ c ∈ calls, c.Known st) →
      ∀ answer ∈ run host st (calls.map Call.step),
        ∃ before o, answer = .written before o ∧ o.result = .ok ()) ∧
      (let d : Diagnostic := ⟨"m", "a.yml", ⟨1, 2, by decide, by decide⟩, "k"⟩
      ∃ o, run .usual (.single (some fun _ => 0x4000000000000000) d)
          [(Call.single (some (.bytes [0x61] (by decide)))).step] = [.written {} o] ∧
        o.result = .error (.own (.of .memory ""))) ∧
      ∀ d : Diagnostic, 4300 < (Text.ofNat d.position.line).length →
        ∃ o, run .usual (.single none d) [(Call.single none).step] = [.written {} o] ∧
          ∃ e, o.result = .error (.own e) ∧ e.isA .value = true := by
  let two : Diagnostic := ⟨"m", "a.yml", ⟨1, 2, by decide, by decide⟩, "k"⟩
  refine ⟨fun host hall => ?_,
    ⟨_, run_single .., (Reporter.write_usual_wide (d := two) rfl rfl).1⟩,
    fun d hd => ⟨_, run_single .usual none d none, ?_⟩⟩
  · let width : Width := fun _ => -0x8000000000000001
    let source : Option Buffer := some (.bytes [0x61] (by decide))
    have hknown : ∀ c ∈ [Call.single source], c.Known (.single (some width) two) := fun c hmem => by
      rw [List.mem_singleton.1 hmem]
      exact ⟨_, _, _, resolves_single (some width) two source⟩
    obtain ⟨before, o, hanswer, hok⟩ :=
      hall _ _ (ready_single (some width) two) hknown _ (by
        rw [List.map_singleton, run_single]
        exact List.mem_singleton_self _)
    cases hanswer
    obtain ⟨⟨f, hf⟩, -⟩ := Reporter.write_narrow (d := two) host rfl rfl
    rw [hok] at hf
    cases hf
  · have hnot : ¬ d.Writable Host.usual.machine := fun h => Machine.not_writes_usual hd h.1
    have hdelivered := Reporter.write_delivered { painter := some { enabled := false } } .usual {} d
      none (s := {}) ⟨fun e he => (by cases he), fun h => absurd rfl h⟩
    obtain ⟨-, e, -, he, hresult⟩ := hdelivered.unwritable hnot
    exact ⟨e, hresult, he⟩

end Session

end CaretReport
