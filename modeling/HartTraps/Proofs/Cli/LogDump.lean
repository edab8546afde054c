import HartTraps.Proofs.Cli.ExitStatus
import HartTraps.Proofs.Cli.Flags
import HartTraps.Proofs.Session.Course
import HartTraps.Proofs.Session.Operations
import HartTraps.Proofs.Snapshot.Reload
import HartTraps.Proofs.Snapshot.Restore

/-!
# The byte order of a dumped log

A replay dumps the log in the byte order of its bench, and no script changes that. A fresh bench has it from the
flags of the command line. A restored one has it from its snapshot, which brings all of its settings along, and
the flags are not consulted (`Cli.dump_of_replay`).
-/

namespace HartTraps

open Bench (fits_start)

/-- A script leaves the settings as they are. -/
theorem Script.settings_play (lines : List Line) {b : Bench} (fits : b.log.Fits) :
    (play lines b).state.settings = b.settings := by
  rw [← session_course]
  exact (Operation.steps_history (course lines b) fits).logs.settings

namespace Cli

/-- The byte order that a replay dumps the log in: the one that the words of the command line ask for, or the one
in the snapshot that it starts from. -/
inductive DumpOrder (t : Terminal) (arguments : List String) : Option String → ByteOrder → Prop where
  | fresh : DumpOrder t arguments none (if Flag.bigEndian.Given arguments then .big else .little)
  | stored {path : String} {bytes : List UInt8} {s : Snapshot} (read : t.read path = .ok bytes)
      (decoded : Snapshot.ofFile bytes = .ok s) : DumpOrder t arguments (some path) s.settings.byteOrder

section

variable {t u : Terminal}

/-- A stored bench is that of a sound snapshot. -/
theorem Terminal.Stores.snapshot {path : String} {b : Bench} (stores : t.Stores path b) :
    ∃ bytes s, t.read path = .ok bytes ∧ Snapshot.ofFile bytes = .ok s ∧ s.Sound ∧ s.bench = b := by
  obtain ⟨bytes, read, loaded⟩ := stores
  unfold Bench.load at loaded
  cases decoded : Snapshot.ofFile bytes with
  | error e =>
    rw [decoded] at loaded
    cases loaded
  | ok s =>
    rw [decoded] at loaded
    exact ⟨bytes, s, read, decoded, Snapshot.restore_eq_ok_iff.mp loaded⟩

/-- The log fits where a replay starts, and its byte order is the one to dump it in. -/
theorem Starts.dumpOrder {arguments : List String} {settings : Settings} {task : Task} {restore : Option String}
    {b : Bench} (asked : Invocation.ofArguments arguments = .ok ⟨settings, task⟩)
    (start : Starts t settings restore b) :
    b.log.Fits ∧ DumpOrder t arguments restore b.settings.byteOrder := by
  cases start with
  | fresh =>
    refine ⟨fits_start settings, ?_⟩
    have order := Invocation.byteOrder_eq asked
    show DumpOrder t arguments none settings.byteOrder
    rw [order]
    exact .fresh
  | stored stores =>
    obtain ⟨bytes, s, read, decoded, sound, rfl⟩ := stores.snapshot
    exact ⟨sound.fits, .stored read decoded⟩

section

variable {key : String} {output : Option String} {bytes : List UInt8} (outputs : Outputs key output bytes t u)

include outputs

/-- An output moves no path. -/
theorem Outputs.place_eq : u.place = t.place := by
  cases outputs with
  | unasked => rfl
  | asked written => exact (Terminal.place_print _ _).trans (Terminal.place_write written)

/-- An output leaves the files at other places alone. -/
theorem Outputs.read_of_ne {path : String} (apart : ∀ other ∈ output, t.place other ≠ t.place path) :
    u.read path = t.read path := by
  cases outputs with
  | unasked => rfl
  | asked written =>
    rw [Terminal.read_print]
    exact Terminal.read_write_of_ne written (apart _ rfl)

end

end

/-- A replay that comes to its end has written the words of the log that its script leaves to the dump file. It
writes them in the byte order of the bench that it has started from: with a fresh bench this is big-endian if the
flag for it is given and little-endian if it is not, and with a restored one it is the byte order of the snapshot,
whatever flags are given. The dump is there to be read when the replay is over, unless the snapshot of the final
bench was asked for at the same place. -/
theorem dump_of_replay {arguments : List String} {settings : Settings} {script path : String}
    {signature snapshot restore : Option String} {t u : Terminal} {status : Nat}
    (asked : Invocation.ofArguments arguments =
      .ok ⟨settings, .replay script signature (some path) snapshot restore⟩)
    (done : (perform Terminal.host ⟨settings, .replay script signature (some path) snapshot restore⟩).run.run t =
      (.ok status, u)) :
    (run Terminal.host arguments).run t = (.exited status, u) ∧
      ∃ b lines reports order, Replays t settings script restore b lines reports ∧
        DumpOrder t arguments restore order ∧
        let final := (Script.play lines b).state
        (∃ v w, Outputs "Signature" signature final.log.signature.toUTF8.data.toList
            (t.reported lines reports final) v ∧
          v.write path (final.log.bytes order) = .ok w ∧
          Outputs "Snapshot" snapshot final.save (w.print (entry "Log dump" path)) u) ∧
        ∀ name, t.place path = .file name → (∀ other ∈ snapshot, t.place other ≠ .file name) →
          u.read path = .ok (final.log.bytes order) := by
  refine ⟨run_of_perform asked done, ?_⟩
  obtain ⟨verdict, replayed, -⟩ := run_perform_eq_ok.mp done
  obtain ⟨b, lines, reports, replays, -, v, w, signed, dumped, saved⟩ := run_replay_eq_ok.mp replayed
  obtain ⟨fits, order⟩ := replays.start.dumpOrder asked
  refine ⟨b, lines, reports, _, replays, order, ?_⟩
  intro final
  have kept : final.settings = b.settings := Script.settings_play lines fits
  rw [kept] at dumped
  cases dumped with
  | @asked _ _ _ w written =>
    refine ⟨⟨v, w, signed, written, saved⟩, fun name place apart => ?_⟩
    -- No path leads elsewhere when the dump or the snapshot is written.
    have signed_place : v.place = t.place := signed.place_eq.trans (Terminal.place_reported ..)
    have dumped_place : (w.print (entry "Log dump" path)).place = t.place :=
      (Terminal.place_write written).trans signed_place
    have there : w.read path = .ok _ := Terminal.read_write written (signed_place ▸ place)
    rw [saved.read_of_ne (dumped_place ▸ place ▸ apart), Terminal.read_print]
    exact there

/-- A replay that is asked for a dump only comes to its end if its script is read and played without an error, and
the dump can be read. -/
theorem dump_of_replays {t : Terminal} {settings : Settings} {script path : String} {restore : Option String}
    {b : Bench} {lines : List Script.Line} {reports : List Script.Report} {name : String}
    (replays : Replays t settings script restore b lines reports) (place : t.place path = .file name) :
    let final := (Script.play lines b).state
    ∃ u, (perform Terminal.host ⟨settings, .replay script none (some path) none restore⟩).run.run t =
        (.ok (exitStatus final.verdict?), u) ∧
      u.read path = .ok (final.log.bytes final.settings.byteOrder) := by
  intro final
  let bytes := final.log.bytes final.settings.byteOrder
  have there : (t.reported lines reports final).place path = .file name := by
    rw [Terminal.place_reported, place]
  obtain ⟨w, written⟩ : ∃ w, (t.reported lines reports final).write path bytes = .ok w := by
    unfold Terminal.write
    rw [there]
    exact ⟨_, rfl⟩
  refine ⟨w.print (entry "Log dump" path), run_perform_eq_ok.mpr ⟨_, ?_, rfl⟩, ?_⟩
  · exact run_replay_eq_ok.mpr
      ⟨b, lines, reports, replays, rfl, _, _, .unasked, .asked written, .unasked⟩
  · rw [Terminal.read_print]
    exact Terminal.read_write written there

/-- A script that logs one word, and a stored bench with the given byte order. Each path is a file of its own. -/
def loggingOneWord (order : ByteOrder) : Terminal :=
  { place := .file
    files :=
      [("script", "log 0x0102030405060708".toUTF8.data.toList),
        ("saved", (Bench.start { byteOrder := order }).save)] }

/-- The line of the script. -/
def oneWordLines : List Script.Line :=
  [⟨1, .log 0x0102030405060708⟩]

theorem replays_loggingOneWord {settings : Settings} {order : ByteOrder} {restore : Option String} {b : Bench}
    (start : Starts (loggingOneWord order) settings restore b)
    (played : (Script.play oneWordLines b).result = .ok []) :
    Replays (loggingOneWord order) settings "script" restore b oneWordLines [] :=
  ⟨⟨_, Terminal.holds_of_read rfl, by rfl⟩, start, played⟩

theorem starts_loggingOneWord (settings : Settings) (order : ByteOrder) :
    Starts (loggingOneWord order) settings (some "saved") (.start { byteOrder := order }) :=
  .stored ⟨_, rfl, Bench.load_save (fits_start _)⟩

/-- With the flag, a replay that starts fresh dumps in big-endian order. -/
theorem dump_of_replay_fresh :
    let task : Task := .replay "script" none (some "dump") none none
    Invocation.ofArguments ["replay", "script", "--dump", "dump", "--big-endian"] =
        .ok ⟨{ byteOrder := .big }, task⟩ ∧
      ∃ u, (perform Terminal.host ⟨{ byteOrder := .big }, task⟩).run.run (loggingOneWord .little) = (.ok 0, u) ∧
        (run Terminal.host ["replay", "script", "--dump", "dump", "--big-endian"]).run (loggingOneWord .little) =
          (.exited 0, u) ∧
        u.read "dump" = .ok [1, 2, 3, 4, 5, 6, 7, 8] := by
  have asked : Invocation.ofArguments ["replay", "script", "--dump", "dump", "--big-endian"] =
      .ok ⟨{ byteOrder := .big }, .replay "script" none (some "dump") none none⟩ := by rfl
  have known : Replays (loggingOneWord .little) { byteOrder := .big } "script" none
      (.start { byteOrder := .big }) oneWordLines [] := replays_loggingOneWord .fresh (by rfl)
  obtain ⟨u, done, -⟩ := dump_of_replays known rfl
  refine ⟨asked, u, done, ?_⟩
  obtain ⟨exited, b, lines, reports, order, replays, ordered, -, dumped⟩ := dump_of_replay asked done
  obtain ⟨rfl, rfl⟩ := replays.unique known
  cases ordered
  exact ⟨exited, dumped _ rfl nofun⟩

/-- With a restored bench the flag neither makes a dump big-endian nor is it needed for that. -/
theorem dump_of_restored :
    let task : Task := .replay "script" none (some "dump") none (some "saved")
    let words := ["replay", "script", "--restore", "saved", "--dump", "dump"]
    (Invocation.ofArguments ("--big-endian" :: words) = .ok ⟨{ byteOrder := .big }, task⟩ ∧
      ∃ u, (perform Terminal.host ⟨{ byteOrder := .big }, task⟩).run.run (loggingOneWord .little) = (.ok 0, u) ∧
        u.read "dump" = .ok [8, 7, 6, 5, 4, 3, 2, 1]) ∧
      (Invocation.ofArguments words = .ok ⟨{}, task⟩ ∧
        ∃ u, (perform Terminal.host ⟨{}, task⟩).run.run (loggingOneWord .big) = (.ok 0, u) ∧
          u.read "dump" = .ok [1, 2, 3, 4, 5, 6, 7, 8]) ∧
      ¬∀ (arguments : List String) (settings : Settings) (script path : String)
        (signature snapshot restore : Option String) (t u : Terminal) (status : Nat) (b : Bench)
        (lines : List Script.Line) (reports : List Script.Report) (name : String),
        Invocation.ofArguments arguments =
            .ok ⟨settings, .replay script signature (some path) snapshot restore⟩ →
          (perform Terminal.host ⟨settings, .replay script signature (some path) snapshot restore⟩).run.run t =
              (.ok status, u) →
            Replays t settings script restore b lines reports →
              t.place path = .file name →
                (∀ other ∈ snapshot, t.place other ≠ .file name) →
                  u.read path = .ok ((Script.play lines b).state.log.bytes
                    (if Flag.bigEndian.Given arguments then .big else .little)) := by
  intro task words
  have flagged : Invocation.ofArguments ("--big-endian" :: words) = .ok ⟨{ byteOrder := .big }, task⟩ := by rfl
  have known (settings : Settings) (order : ByteOrder) :=
    replays_loggingOneWord (starts_loggingOneWord settings order) (by rfl)
  obtain ⟨u, done, dumped⟩ := dump_of_replays (known { byteOrder := .big } .little) rfl
  refine ⟨⟨flagged, u, done, dumped⟩, ⟨by rfl, dump_of_replays (known {} .big) rfl⟩, fun told => ?_⟩
  have big := told _ _ _ _ _ _ _ _ _ _ _ _ _ _ flagged done (known _ _) rfl nofun
  rw [if_pos (by decide)] at big
  have same := Except.ok.inj (dumped.symm.trans big)
  exact absurd same (by decide)

end Cli

end HartTraps
