import HartTraps.Cli.Command

/-!
# What a replay does

On a terminal, a replay that comes to its end has read its script, has started from a fresh bench or from a
stored one, and has played the script without an error (`Cli.Replays`). Its result is the verdict of that run,
whatever it was asked to store (`Cli.replays_of_replay`), and each file that it was asked to store has been
written (`Cli.Outputs`, `Cli.run_replay_eq_ok`).
-/

namespace HartTraps.Cli

/-- The file at a path is this text. -/
def Terminal.Holds (t : Terminal) (path text : String) : Prop :=
  ∃ bytes, t.read path = .ok bytes ∧ String.fromUTF8? ⟨bytes.toArray⟩ = some text

theorem Terminal.holds_of_read {t : Terminal} {path text : String}
    (read : t.read path = .ok text.toUTF8.data.toList) : t.Holds path text := by
  have valid : (ByteArray.mk text.toUTF8.data.toList.toArray).IsValidUTF8 := text.isValidUTF8
  refine ⟨_, read, ?_⟩
  unfold String.fromUTF8?
  rw [dif_pos valid]
  rfl

/-- The file at a path stores this bench. -/
def Terminal.Stores (t : Terminal) (path : String) (b : Bench) : Prop :=
  ∃ bytes, t.read path = .ok bytes ∧ Bench.load bytes = .ok b

/-- Where a replay starts: from a fresh bench, or from the one that a file stores. -/
inductive Starts (t : Terminal) (settings : Settings) : Option String → Bench → Prop where
  | fresh : Starts t settings none (.start settings)
  | stored {path : String} {b : Bench} (stores : t.Stores path b) : Starts t settings (some path) b

/-- A script is read, and played from the start of a replay without an error. -/
structure Replays (t : Terminal) (settings : Settings) (script : String) (restore : Option String)
    (b : Bench) (lines : List Script.Line) (reports : List Script.Report) : Prop where
  read : ∃ text, t.Holds script text ∧ Script.parse text.toList = .ok lines
  start : Starts t settings restore b
  played : (Script.play lines b).result = .ok reports

section Determined

variable {t : Terminal}

theorem Terminal.Holds.unique {path text text' : String} (holds : t.Holds path text)
    (holds' : t.Holds path text') : text = text' := by
  obtain ⟨bytes, read, decoded⟩ := holds
  obtain ⟨bytes', read', decoded'⟩ := holds'
  obtain rfl : bytes = bytes' := Except.ok.inj (read.symm.trans read')
  exact Option.some.inj (decoded.symm.trans decoded')

theorem Starts.unique {settings : Settings} {restore : Option String} {b b' : Bench}
    (start : Starts t settings restore b) (start' : Starts t settings restore b') : b = b' := by
  cases start with
  | fresh =>
    cases start'
    rfl
  | stored stores =>
    cases start' with
    | stored stores' =>
      obtain ⟨bytes, read, loaded⟩ := stores
      obtain ⟨bytes', read', loaded'⟩ := stores'
      obtain rfl : bytes = bytes' := Except.ok.inj (read.symm.trans read')
      exact Except.ok.inj (loaded.symm.trans loaded')

/-- The terminal and the command line determine what is replayed. -/
theorem Replays.unique {settings : Settings} {script : String} {restore : Option String} {b b' : Bench}
    {lines lines' : List Script.Line} {reports reports' : List Script.Report}
    (replays : Replays t settings script restore b lines reports)
    (replays' : Replays t settings script restore b' lines' reports') : b = b' ∧ lines = lines' := by
  obtain ⟨text, holds, parsed⟩ := replays.read
  obtain ⟨text', holds', parsed'⟩ := replays'.read
  obtain rfl := holds.unique holds'
  exact ⟨replays.start.unique replays'.start, Except.ok.inj (parsed.symm.trans parsed')⟩

end Determined

/-! ## Attempts on a terminal -/

section Attempts

variable {α β : Type} {t u : Terminal}

theorem run_bind_eq_ok {x : Attempt (StateM Terminal) α} {f : α → Attempt (StateM Terminal) β} {y : β} :
    (x >>= f).run.run t = (.ok y, u) ↔
      ∃ a v, x.run.run t = (.ok a, v) ∧ (f a).run.run v = (.ok y, u) := by
  rw [ExceptT.run_bind, StateT.run_bind]
  rcases x.run.run t with ⟨_ | a, v⟩
  · constructor
    · intro done
      cases done
    · rintro ⟨a, v, done, -⟩
      cases done
  · constructor
    · intro done
      exact ⟨a, v, rfl, done⟩
    · rintro ⟨a, v, here, done⟩
      cases here
      exact done

theorem run_accept_eq_ok {r : Except BenchError α} {a : α} :
    (accept r : Attempt (StateM Terminal) α).run.run t = (.ok a, u) ↔ r = .ok a ∧ t = u := by
  cases r with
  | error e =>
    refine ⟨fun done => ?_, fun same => nomatch same.1⟩
    cases done
  | ok x =>
    constructor
    · intro done
      cases done
      exact ⟨rfl, rfl⟩
    · rintro ⟨same, rfl⟩
      cases same
      rfl

theorem mapError_eq_ok {ε ε' : Type} {f : ε → ε'} {r : Except ε α} {a : α} :
    r.mapError f = .ok a ↔ r = .ok a := by
  cases r with
  | error e => exact ⟨nofun, nofun⟩
  | ok x => constructor <;> (intro same; cases same; rfl)

theorem run_read_eq_ok {path : String} {answer : Except ReadFailure (List UInt8)} :
    (liftM (Terminal.host.read path) : Attempt (StateM Terminal) _).run.run t = (.ok answer, u) ↔
      t.read path = answer ∧ t = u := by
  constructor
  · intro done
    cases done
    exact ⟨rfl, rfl⟩
  · rintro ⟨rfl, rfl⟩
    rfl

theorem run_readInput_eq_ok {path : String} {bytes : List UInt8} :
    (readInput Terminal.host path).run.run t = (.ok bytes, u) ↔ t.read path = .ok bytes ∧ t = u := by
  unfold readInput
  constructor
  · intro done
    obtain ⟨answer, v, asked, done⟩ := run_bind_eq_ok.mp done
    obtain ⟨read, rfl⟩ := run_read_eq_ok.mp asked
    split at done
    · cases done
      exact ⟨read, rfl⟩
    · cases done
    · cases done
  · rintro ⟨read, rfl⟩
    exact run_bind_eq_ok.mpr ⟨.ok bytes, t, run_read_eq_ok.mpr ⟨read, rfl⟩, rfl⟩

theorem run_readText_eq_ok {path text : String} :
    (readText Terminal.host path).run.run t = (.ok text, u) ↔ t.Holds path text ∧ t = u := by
  unfold readText Terminal.Holds
  constructor
  · intro done
    obtain ⟨bytes, v, asked, done⟩ := run_bind_eq_ok.mp done
    obtain ⟨read, rfl⟩ := run_readInput_eq_ok.mp asked
    split at done
    · next text' decoded =>
      cases done
      exact ⟨⟨bytes, read, decoded⟩, rfl⟩
    · cases done
  · rintro ⟨⟨bytes, read, decoded⟩, rfl⟩
    refine run_bind_eq_ok.mpr ⟨bytes, t, run_readInput_eq_ok.mpr ⟨read, rfl⟩, ?_⟩
    rw [decoded]
    rfl

/-- Neither a folder nor an endless file stores a bench. -/
theorem run_readBench_eq_ok {path : String} {b : Bench} :
    (readBench Terminal.host path).run.run t = (.ok b, u) ↔ t.Stores path b ∧ t = u := by
  have empty : Bench.load [] = .error (.undecodable (.endOfInput 8)) := by rfl
  have zeros : Bench.load (List.replicate 1024 0) = .error (.snapshotVersion "1.0" "") := by rfl
  unfold readBench Terminal.Stores
  constructor
  · intro done
    obtain ⟨answer, v, asked, done⟩ := run_bind_eq_ok.mp done
    obtain ⟨read, rfl⟩ := run_read_eq_ok.mp asked
    rcases answer with (_ | _ | _) | bytes
    · cases done
    · dsimp only at done
      rw [empty] at done
      cases done
    · dsimp only at done
      rw [zeros] at done
      cases done
    · obtain ⟨loaded, rfl⟩ := run_accept_eq_ok.mp done
      exact ⟨⟨bytes, read, loaded⟩, rfl⟩
  · rintro ⟨⟨bytes, read, loaded⟩, rfl⟩
    exact run_bind_eq_ok.mpr
      ⟨.ok bytes, t, run_read_eq_ok.mpr ⟨read, rfl⟩, run_accept_eq_ok.mpr ⟨loaded, rfl⟩⟩

end Attempts

/-! ## What a replay stores -/

section Outputs

variable {t u : Terminal}

/-- An output file that is asked for is written, and then its name is printed. -/
inductive Outputs (key : String) : Option String → List UInt8 → Terminal → Terminal → Prop where
  | unasked {bytes : List UInt8} {t : Terminal} : Outputs key none bytes t t
  | asked {path : String} {bytes : List UInt8} {t u : Terminal} (written : t.write path bytes = .ok u) :
      Outputs key (some path) bytes t (u.print (entry key path))

theorem run_write {path : String} {bytes : List UInt8} :
    (liftM (Terminal.host.write path bytes) : Attempt (StateM Terminal) _).run.run t =
      match t.write path bytes with
      | .ok v => (.ok (.ok ()), v)
      | .error reason => (.ok (.error reason), t) := by
  show (Except.ok (Terminal.host.write path bytes t).1, (Terminal.host.write path bytes t).2) = _
  unfold Terminal.host
  dsimp only
  cases t.write path bytes <;> rfl

theorem run_writeOutput_eq_ok {key : String} {path : Option String} {bytes : List UInt8}
    {failure : WriteFailure → Failure} :
    (writeOutput Terminal.host key path bytes failure).run.run t = (.ok (), u) ↔
      Outputs key path bytes t u := by
  cases path with
  | none =>
    constructor
    · intro done
      cases done
      exact .unasked
    · intro outputs
      cases outputs
      rfl
  | some path =>
    unfold writeOutput
    dsimp only
    rw [run_bind_eq_ok, run_write]
    constructor
    · rintro ⟨answer, v, asked, done⟩
      cases written : t.write path bytes with
      | error reason =>
        rw [written] at asked
        cases asked
        cases done
      | ok w =>
        rw [written] at asked
        cases asked
        cases done
        exact .asked written
    · intro outputs
      cases outputs with
      | asked written =>
        rw [written]
        exact ⟨_, _, rfl, rfl⟩

/-- The terminal once a replay has reported on its run. -/
def Terminal.reported (t : Terminal) (lines : List Script.Line) (reports : List Script.Report)
    (final : Bench) : Terminal :=
  (t.print (heading "REPLAY" ++ entry "Commands" (toString lines.length))).print
    (reportLines reports ++ summary final)

@[simp] theorem Terminal.place_reported (t : Terminal) (lines : List Script.Line)
    (reports : List Script.Report) (final : Bench) : (t.reported lines reports final).place = t.place := rfl

/-- A replay comes to its end exactly if its script is read and played without an error and each file that is
asked for can be written: the signature, the dump of the log and the snapshot of the bench that the run has left,
in this order. -/
theorem run_replay_eq_ok {settings : Settings} {script : String}
    {signature dump snapshot restore : Option String} {verdict : Option Verdict} :
    (replay Terminal.host settings script signature dump snapshot restore).run.run t = (.ok verdict, u) ↔
      ∃ b lines reports, Replays t settings script restore b lines reports ∧
        let final := (Script.play lines b).state
        verdict = final.verdict? ∧
        ∃ v w, Outputs "Signature" signature final.log.signature.toUTF8.data.toList
            (t.reported lines reports final) v ∧
          Outputs "Log dump" dump (final.log.bytes final.settings.byteOrder) v w ∧
          Outputs "Snapshot" snapshot final.save w u := by
  unfold replay
  constructor
  · intro done
    obtain ⟨text, t₁, reads, done⟩ := run_bind_eq_ok.mp done
    obtain ⟨lines, t₂, parses, done⟩ := run_bind_eq_ok.mp done
    obtain ⟨holds, rfl⟩ := run_readText_eq_ok.mp reads
    obtain ⟨parsed, rfl⟩ := run_accept_eq_ok.mp parses
    -- What follows once it is settled where to start.
    extract_lets rest at done
    have started : ∃ b, Starts t settings restore b ∧ (rest b).run.run t = (.ok verdict, u) := by
      cases restore with
      | none =>
        obtain ⟨b, t₃, start, done⟩ := run_bind_eq_ok.mp done
        cases start
        exact ⟨_, .fresh, done⟩
      | some path =>
        obtain ⟨b, t₃, loads, done⟩ := run_bind_eq_ok.mp done
        obtain ⟨stores, rfl⟩ := run_readBench_eq_ok.mp loads
        exact ⟨b, .stored stores, done⟩
    obtain ⟨b, start, done⟩ := started
    obtain ⟨_, t₄, shows, done⟩ := run_bind_eq_ok.mp done
    cases shows
    obtain ⟨reports, t₅, plays, done⟩ := run_bind_eq_ok.mp done
    obtain ⟨played, rfl⟩ := run_accept_eq_ok.mp plays
    obtain ⟨_, t₆, shows, done⟩ := run_bind_eq_ok.mp done
    cases shows
    obtain ⟨_, t₇, signature, done⟩ := run_bind_eq_ok.mp done
    obtain ⟨_, t₈, dump, done⟩ := run_bind_eq_ok.mp done
    obtain ⟨_, t₉, snapshot, done⟩ := run_bind_eq_ok.mp done
    cases done
    exact ⟨b, lines, reports, ⟨⟨text, holds, mapError_eq_ok.mp parsed⟩, start, played⟩, rfl, t₇, t₈,
      run_writeOutput_eq_ok.mp signature, run_writeOutput_eq_ok.mp dump,
      run_writeOutput_eq_ok.mp snapshot⟩
  · rintro ⟨b, lines, reports, ⟨⟨text, holds, parsed⟩, start, played⟩, rfl, v, w, signature, dump, snapshot⟩
    refine run_bind_eq_ok.mpr ⟨text, t, run_readText_eq_ok.mpr ⟨holds, rfl⟩, ?_⟩
    refine run_bind_eq_ok.mpr ⟨lines, t, run_accept_eq_ok.mpr ⟨mapError_eq_ok.mpr parsed, rfl⟩, ?_⟩
    extract_lets rest
    have rest_eq : (rest b).run.run t = (.ok (Script.play lines b).state.verdict?, u) := by
      refine run_bind_eq_ok.mpr ⟨(), _, rfl, ?_⟩
      refine run_bind_eq_ok.mpr ⟨reports, _, run_accept_eq_ok.mpr ⟨played, rfl⟩, ?_⟩
      refine run_bind_eq_ok.mpr ⟨(), t.reported lines reports (Script.play lines b).state, rfl, ?_⟩
      refine run_bind_eq_ok.mpr ⟨(), v, run_writeOutput_eq_ok.mpr signature, ?_⟩
      refine run_bind_eq_ok.mpr ⟨(), w, run_writeOutput_eq_ok.mpr dump, ?_⟩
      exact run_bind_eq_ok.mpr ⟨(), u, run_writeOutput_eq_ok.mpr snapshot, rfl⟩
    cases start with
    | fresh => exact rest_eq
    | stored stores => exact run_bind_eq_ok.mpr ⟨b, t, run_readBench_eq_ok.mpr ⟨stores, rfl⟩, rest_eq⟩

end Outputs

theorem replays_of_replay {t u : Terminal} {settings : Settings} {script : String}
    {signature dump snapshot restore : Option String} {verdict : Option Verdict}
    (done : (replay Terminal.host settings script signature dump snapshot restore).run.run t =
      (.ok verdict, u)) :
    ∃ b lines reports, Replays t settings script restore b lines reports ∧
      verdict = (Script.play lines b).state.verdict? := by
  obtain ⟨b, lines, reports, replays, rfl, -⟩ := run_replay_eq_ok.mp done
  exact ⟨b, lines, reports, replays, rfl⟩

/-- A replay that stores nothing comes to its end if its script is read and played without an error. -/
theorem replay_of_replays {t : Terminal} {settings : Settings} {script : String} {restore : Option String}
    {b : Bench} {lines : List Script.Line} {reports : List Script.Report}
    (replays : Replays t settings script restore b lines reports) :
    ∃ u, (replay Terminal.host settings script none none none restore).run.run t =
      (.ok (Script.play lines b).state.verdict?, u) :=
  ⟨_, run_replay_eq_ok.mpr ⟨b, lines, reports, replays, rfl, _, _, .unasked, .unasked, .unasked⟩⟩

end HartTraps.Cli
