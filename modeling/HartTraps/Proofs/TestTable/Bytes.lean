import HartTraps.Log
import HartTraps.TestTable.Table

/-!
# Test tables as logged words

A record is three words, so the bytes of a test table are those of a log that holds the words of its records, in
either byte order. A log is read as a table exactly if its words come in threes, and no table is lost or changed
by writing its records to a log (`TestTable.decode_bytes`).
-/

namespace HartTraps

namespace TestCase

/-- The words of a record in the order in which they stand in a table. -/
def words (case : TestCase) : List Word :=
  [case.address, case.value, case.tag]

theorem bytes_eq (order : ByteOrder) (case : TestCase) :
    case.bytes order = case.words.flatMap order.bytes := by
  simp only [bytes, words, List.flatMap_cons, List.flatMap_nil, List.append_nil, List.append_assoc]

@[simp] theorem length_bytes (order : ByteOrder) (case : TestCase) :
    (case.bytes order).length = recordSize := by
  simp only [bytes, List.length_append, ByteOrder.length_bytes]
  rfl

theorem bytes_ofBytes (order : ByteOrder) {bs : List UInt8} (size : bs.length = recordSize) :
    (ofBytes order bs).bytes order = bs := by
  have whole : bs.length = 24 := size
  have address : (bs.take 8).length = 8 := by rw [List.length_take]; omega
  have value : ((bs.drop 8).take 8).length = 8 := by rw [List.length_take, List.length_drop]; omega
  have tag : (bs.drop 16).length = 8 := by rw [List.length_drop, whole]
  have rest : bs.drop 16 = (bs.drop 8).drop 8 := by rw [List.drop_drop]
  simp only [bytes, ofBytes, order.bytes_word address, order.bytes_word value, order.bytes_word tag]
  rw [rest, List.append_assoc, List.take_append_drop, List.take_append_drop]

theorem length_flatMap_bytes (order : ByteOrder) (cases : List TestCase) :
    (cases.flatMap (bytes order)).length = cases.length * recordSize := by
  simp [List.length_flatMap, List.map_const']

theorem records_flatMap_bytes (order : ByteOrder) (cases : List TestCase) :
    records order cases.length (cases.flatMap (bytes order)) = cases := by
  induction cases with
  | nil => rfl
  | cons case rest ih =>
    have size := length_bytes order case
    rw [List.length_cons, List.flatMap_cons, records, ← size, List.take_left, List.drop_left, ih,
      ofBytes_bytes]

theorem flatMap_bytes_records (order : ByteOrder) {n : Nat} {bs : List UInt8}
    (size : bs.length = n * recordSize) : (records order n bs).flatMap (bytes order) = bs := by
  induction n generalizing bs with
  | zero =>
    rw [Nat.zero_mul, List.length_eq_zero_iff] at size
    rw [size, records, List.flatMap_nil]
  | succ n ih =>
    rw [Nat.succ_mul] at size
    have first : (bs.take recordSize).length = recordSize := by rw [List.length_take]; omega
    have others : (bs.drop recordSize).length = n * recordSize := by rw [List.length_drop]; omega
    rw [records, List.flatMap_cons, bytes_ofBytes order first, ih others, List.take_append_drop]

/-- Words that come in threes are those of records. -/
theorem exists_of_length {n : Nat} {ws : List Word} (length : ws.length = 3 * n) :
    ∃ cases : List TestCase, ws = cases.flatMap words := by
  induction n generalizing ws with
  | zero => exact ⟨[], List.length_eq_zero_iff.mp length⟩
  | succ n ih =>
    match ws with
    | address :: value :: tag :: rest =>
      simp only [List.length_cons] at length
      have fewer : rest.length = 3 * n := by omega
      obtain ⟨cases, others⟩ := ih fewer
      exact ⟨⟨address, value, tag⟩ :: cases, by rw [List.flatMap_cons, ← others]; rfl⟩
    | [] | [_] | [_, _] => simp only [List.length_cons, List.length_nil] at length; omega

theorem length_flatMap_words (cases : List TestCase) :
    (cases.flatMap words).length = 3 * cases.length := by
  simp [List.length_flatMap, List.map_const', words, Nat.mul_comm]

/-- The words of record `i` are those from number `3 * i` on. -/
theorem getElem?_flatMap_words {cases : List TestCase} {i : Nat} {case : TestCase}
    (here : cases[i]? = some case) :
    (cases.flatMap words)[3 * i]? = some case.address ∧
      (cases.flatMap words)[3 * i + 1]? = some case.value ∧
      (cases.flatMap words)[3 * i + 2]? = some case.tag := by
  induction cases generalizing i with
  | nil => cases here
  | cons first rest ih =>
    cases i with
    | zero =>
      cases here
      exact ⟨rfl, rfl, rfl⟩
    | succ i => exact ih here

end TestCase

namespace Log

/-- Appends words one after the other as long as there is room. -/
def appendAll? (log : Log) (ws : List Word) : Option Log :=
  ws.foldlM append? log

theorem appendAll?_of_le {log : Log} {ws : List Word}
    (room : log.words.length + ws.length ≤ log.capacity.toNat) :
    log.appendAll? ws = some { log with words := log.words ++ ws } := by
  unfold appendAll?
  induction ws generalizing log with
  | nil => rw [List.foldlM_nil, List.append_nil]; rfl
  | cons w ws ih =>
    rw [List.length_cons] at room
    rw [List.foldlM_cons, append?_of_lt w (by omega)]
    show List.foldlM append? { log with words := log.words ++ [w] } ws = _
    rw [ih (by simp only [List.length_append, List.length_singleton]; omega)]
    simp only [List.append_assoc, List.singleton_append]

theorem length_bytes (log : Log) (order : ByteOrder) :
    (log.bytes order).length = 8 * log.words.length := by
  simp [bytes, List.length_flatMap, List.map_const', Nat.mul_comm]

/-- A log of the words of records has the bytes of these records. -/
theorem bytes_of_words {log : Log} {cases : List TestCase} (order : ByteOrder)
    (same : log.words = cases.flatMap TestCase.words) :
    log.bytes order = cases.flatMap (TestCase.bytes order) := by
  have records : TestCase.bytes order = fun case => case.words.flatMap order.bytes :=
    funext fun case => case.bytes_eq order
  rw [bytes, same, List.flatMap_assoc, records]

end Log

namespace TestTable

variable {order : ByteOrder} {bs : List UInt8} {cases : List TestCase}

/-- A table is read as records exactly if it consists of their bytes. -/
theorem decode_eq_ok_iff :
    decode order bs = .ok cases ↔ bs = cases.flatMap (TestCase.bytes order) := by
  unfold decode TestCase.ofTable?
  constructor
  · intro read
    split at read
    · next records whole =>
      cases read
      split at whole
      · next multiple =>
        cases whole
        have size : bs.length = bs.length / TestCase.recordSize * TestCase.recordSize := by
          rw [Nat.div_mul_cancel (Nat.dvd_of_mod_eq_zero multiple)]
        exact (TestCase.flatMap_bytes_records order size).symm
      · cases whole
    · cases read
  · rintro rfl
    have size := TestCase.length_flatMap_bytes order cases
    have positive : 0 < TestCase.recordSize := by decide
    rw [size, Nat.mul_mod_left, if_pos rfl, Nat.mul_div_cancel _ positive,
      TestCase.records_flatMap_bytes]

/-- A table is refused exactly if its length is no multiple of the record size. -/
theorem decode_eq_error_iff {e : BenchError} :
    decode order bs = .error e ↔ ¬TestCase.recordSize ∣ bs.length ∧ e = .truncatedTable bs.length := by
  unfold decode TestCase.ofTable?
  rw [Nat.dvd_iff_mod_eq_zero]
  by_cases multiple : bs.length % TestCase.recordSize = 0
  · rw [if_pos multiple]
    exact ⟨nofun, fun refused => absurd multiple refused.1⟩
  · rw [if_neg multiple]
    exact ⟨fun refused => by cases refused; exact ⟨multiple, rfl⟩, fun refused => by rw [refused.2]⟩

/-- A log is read as records exactly if it holds their words. -/
theorem decode_bytes_eq_ok_iff {log : Log} :
    decode order (log.bytes order) = .ok cases ↔ log.words = cases.flatMap TestCase.words := by
  constructor
  · intro read
    have same := decode_eq_ok_iff.mp read
    have threes : log.words.length = 3 * cases.length := by
      have length := congrArg List.length same
      rw [log.length_bytes, TestCase.length_flatMap_bytes, TestCase.recordSize] at length
      omega
    obtain ⟨others, words⟩ := TestCase.exists_of_length threes
    have again := decode_eq_ok_iff.mpr (log.bytes_of_words order words)
    rw [words, Except.ok.inj (read.symm.trans again)]
  · intro words
    exact decode_eq_ok_iff.mpr (log.bytes_of_words order words)

/-- The bytes of a log are read as a table exactly if the number of its words is a multiple of three. Then
record `i` consists of the words from number `3 * i` on; otherwise the table is refused with the length of the
bytes. Conversely, a table that is read has the bytes of every log that holds the words of its records, and so
of one to which they are written one after the other, in whichever order both are laid out. -/
theorem decode_bytes (order : ByteOrder) :
    (∀ log : Log,
      ((∃ cases, decode order (log.bytes order) = .ok cases) ↔ 3 ∣ log.words.length) ∧
      (∀ cases, decode order (log.bytes order) = .ok cases →
        log.words.length = 3 * cases.length ∧
        ∀ i case, cases[i]? = some case →
          log.words[3 * i]? = some case.address ∧ log.words[3 * i + 1]? = some case.value ∧
            log.words[3 * i + 2]? = some case.tag) ∧
      (¬3 ∣ log.words.length →
        decode order (log.bytes order) = .error (.truncatedTable (log.bytes order).length))) ∧
    ∀ bs cases, decode order bs = .ok cases →
      (∀ log : Log, log.words = cases.flatMap TestCase.words → log.bytes order = bs) ∧
      ∀ log : Log, log.words = [] → 3 * cases.length ≤ log.capacity.toNat →
        ∃ written, log.appendAll? (cases.flatMap TestCase.words) = some written ∧
          written.bytes order = bs := by
  refine ⟨fun log => ⟨⟨?threes, ?table⟩, ?records, ?refused⟩, fun bs cases read => ?converse⟩
  case threes =>
    rintro ⟨cases, read⟩
    rw [decode_bytes_eq_ok_iff.mp read, TestCase.length_flatMap_words]
    exact Nat.dvd_mul_right 3 cases.length
  case table =>
    rintro ⟨n, threes⟩
    obtain ⟨cases, words⟩ := TestCase.exists_of_length threes
    exact ⟨cases, decode_bytes_eq_ok_iff.mpr words⟩
  case records =>
    intro cases read
    rw [decode_bytes_eq_ok_iff.mp read]
    exact ⟨TestCase.length_flatMap_words cases, fun i case here => TestCase.getElem?_flatMap_words here⟩
  case refused =>
    intro uneven
    refine decode_eq_error_iff.mpr ⟨fun multiple => uneven ?_, rfl⟩
    rw [log.length_bytes, TestCase.recordSize] at multiple
    omega
  case converse =>
    have bytes {log : Log} (words : log.words = cases.flatMap TestCase.words) : log.bytes order = bs :=
      (log.bytes_of_words order words).trans (decode_eq_ok_iff.mp read).symm
    refine ⟨fun log words => bytes words, fun log empty room => ?_⟩
    have fits : log.words.length + (cases.flatMap TestCase.words).length ≤ log.capacity.toNat := by
      rw [empty, TestCase.length_flatMap_words, List.length_nil, Nat.zero_add]
      exact room
    refine ⟨_, Log.appendAll?_of_le fits, bytes ?_⟩
    rw [empty, List.nil_append]

end TestTable

end HartTraps
