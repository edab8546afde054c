import HartTraps.Proofs.Trap.Pages

/-!
# Where a move takes the result log

A move takes the cursor of the log to its place in the new page, and the virtual base follows at the old
distance. As long as the cursor lies in the page of the region this moves the whole region: every word
keeps its offset. A full log whose region ends with its page has its cursor on the next page. Then the
cursor goes to the base of the new page, and the region comes to lie one page in front of its place.
-/

namespace HartTraps

namespace Log

/-- The virtual address of the word with number `i`. -/
def address (log : Log) (i : Nat) : Word :=
  log.virtualBase + BitVec.ofNat 64 (8 * i)

/-- The virtual region has room for a word and ends in the page in which it begins: the offset of its base
leaves all its bytes below the size of the page. -/
structure InOnePage (mask : Word) (log : Log) : Prop where
  nonempty : 0 < log.capacity.toNat
  room : (log.virtualBase &&& mask).toNat + 8 * log.capacity.toNat ≤ mask.toNat + 1

/-- The log is full, and its virtual region ends where its page ends. -/
structure FillsPage (mask : Word) (log : Log) : Prop where
  full : log.words.length = log.capacity.toNat
  atEnd : (log.virtualBase &&& mask).toNat + 8 * log.capacity.toNat = mask.toNat + 1

instance (mask : Word) (log : Log) : Decidable (log.InOnePage mask) :=
  decidable_of_iff (0 < log.capacity.toNat ∧
    (log.virtualBase &&& mask).toNat + 8 * log.capacity.toNat ≤ mask.toNat + 1)
    ⟨fun ⟨nonempty, room⟩ => ⟨nonempty, room⟩, fun ⟨nonempty, room⟩ => ⟨nonempty, room⟩⟩

instance (mask : Word) (log : Log) : Decidable (log.FillsPage mask) :=
  decidable_of_iff (log.words.length = log.capacity.toNat ∧
    (log.virtualBase &&& mask).toNat + 8 * log.capacity.toNat = mask.toNat + 1)
    ⟨fun ⟨full, atEnd⟩ => ⟨full, atEnd⟩, fun ⟨full, atEnd⟩ => ⟨full, atEnd⟩⟩

/-- The log once its cursor has moved to the page with base `page`. -/
def moved (mask page : Word) (log : Log) : Log :=
  log.rebase (Architecture.place mask page log.virtualCursor)

section Moved

variable {log : Log} {code i : Nat} {mask page : Word}
  (known : Architecture.offsetMask? code = some mask) (inPage : log.InOnePage mask)

include known inPage

/-- Distances within the region do not wrap. -/
theorem toNat_distance (within : i ≤ log.capacity.toNat) :
    (BitVec.ofNat 64 (8 * i)).toNat = 8 * i := by
  have room := inPage.room
  have size := Architecture.size_lt known
  rw [BitVec.toNat_ofNat]
  exact Nat.mod_eq_of_lt (by omega)

/-- The addresses of the words keep their distances to the base when they move. -/
theorem place_address (aligned : page &&& mask = 0) (within : i < log.capacity.toNat) :
    Architecture.place mask page (log.address i) =
      Architecture.place mask page log.virtualBase + BitVec.ofNat 64 (8 * i) := by
  have room := inPage.room
  apply Architecture.place_add aligned known
  rw [toNat_distance known inPage (Nat.le_of_lt within)]
  omega

/-- The words of a log lie as far from their places as its base. -/
theorem address_eq_sub {other : Log} {d : Word} (aligned : page &&& mask = 0)
    (within : i < log.capacity.toNat)
    (base : other.virtualBase = Architecture.place mask page log.virtualBase - d) :
    other.address i = Architecture.place mask page (log.address i) - d := by
  rw [place_address known inPage aligned within, address, base, BitVec.sub_eq_add_neg,
    BitVec.sub_eq_add_neg, BitVec.add_assoc, BitVec.add_comm (-d), ← BitVec.add_assoc]

/-- While the cursor lies in the page of the region, the virtual base goes to its place. -/
theorem virtualBase_moved (aligned : page &&& mask = 0) (fits : log.Fits)
    (inside : ¬log.FillsPage mask) :
    (log.moved mask page).virtualBase = Architecture.place mask page log.virtualBase := by
  have room := inPage.room
  have short : (log.virtualBase &&& mask).toNat + 8 * log.words.length ≤ mask.toNat := by
    unfold Fits at fits
    by_contra beyond
    exact inside ⟨by omega, by omega⟩
  have cursor : Architecture.place mask page log.virtualCursor =
      Architecture.place mask page log.virtualBase + log.offset := by
    apply Architecture.place_add aligned known
    rw [offset, toNat_distance known inPage fits]
    exact short
  show Architecture.place mask page log.virtualCursor - log.offset = _
  rw [cursor, BitVec.add_sub_cancel]

section Filled

variable (fills : log.FillsPage mask)

include fills

theorem toNat_offset_of_fillsPage :
    (log.virtualBase &&& mask).toNat + log.offset.toNat = mask.toNat + 1 := by
  have atEnd := fills.atEnd
  rw [offset, fills.full, toNat_distance known inPage (Nat.le_refl _)]
  exact atEnd

/-- The cursor of a log that fills its page lies past that page. -/
theorem virtualCursor_moved_of_fillsPage : (log.moved mask page).virtualCursor = page :=
  (virtualCursor_rebase _ _).trans
    (Architecture.place_add_of_end known (toNat_offset_of_fillsPage known inPage fills))

/-- If a log fills its page, its virtual base goes one page in front of its place. -/
theorem virtualBase_moved_of_fillsPage (aligned : page &&& mask = 0) :
    (log.moved mask page).virtualBase =
      Architecture.place mask page log.virtualBase - (mask + 1) := by
  -- The page has the bytes in front of the region and those in it.
  have split : (log.virtualBase &&& mask) + log.offset = mask + 1 := by
    apply BitVec.eq_of_toNat_eq
    rw [BitVec.toNat_add, BitVec.toNat_add, toNat_offset_of_fillsPage known inPage fills]
    rfl
  calc (log.moved mask page).virtualBase
      = (log.moved mask page).virtualCursor - log.offset := (BitVec.add_sub_cancel _ _).symm
    _ = page - log.offset := by rw [virtualCursor_moved_of_fillsPage known inPage fills]
    _ = page + (log.virtualBase &&& mask) - ((log.virtualBase &&& mask) + log.offset) := by
      rw [← BitVec.sub_sub, BitVec.add_sub_cancel]
    _ = Architecture.place mask page log.virtualBase - (mask + 1) := by
      rw [split, Architecture.place_eq_add aligned, BitVec.add_comm page]

end Filled

omit known in
/-- A region whose base is at its place lies in the page of that place. -/
theorem inOnePage_of_place {other : Log} (aligned : page &&& mask = 0)
    (capacity : other.capacity = log.capacity)
    (base : other.virtualBase = Architecture.place mask page log.virtualBase) :
    other.InOnePage mask ∧ other.virtualBase &&& ~~~mask = page := by
  have offset : other.virtualBase &&& mask = log.virtualBase &&& mask := by
    rw [base]
    exact Architecture.and_place_of_aligned aligned _
  refine ⟨⟨?nonempty, ?room⟩, ?page⟩
  case nonempty =>
    rw [capacity]
    exact inPage.nonempty
  case room =>
    rw [capacity, offset]
    exact inPage.room
  case page =>
    rw [base]
    exact Architecture.place_and_not_mask aligned _

end Moved

end Log

namespace Bench

variable {b : Bench} {t : Trap} {o : Outcome}

/-- The log that an accepted trap hands to its handler still fits. -/
theorem fits_recorded (accepted : (raise t b).result = .ok o) (fits : b.log.Fits) :
    (Architecture.recorded b t).Fits := by
  obtain ⟨a, admits, -, -⟩ := admits_of_raise accepted
  have handed : a.log = Architecture.recorded b t := log_eq_of_logged? admits.logged
  rw [← handed]
  rcases logged?_eq_some admits.logged with ⟨same, -⟩ | ⟨appended, -⟩
  · rw [same]
    exact fits
  · exact Log.Fits.append? appended

/-- An accepted call for another page moves the log by its cursor. If the virtual region lies in one page of
the requested type, then the whole region moves, and every word of it to its place, unless the log that
the handler finds is full and ends with its page. In that case the cursor goes to the base of the new page
and every word to one page in front of its place. -/
theorem region_follows_cursor {mask : Word} (accepted : (raise t b).result = .ok o)
    (asks : Architecture.AsksToMove b.hart t)
    (known : Architecture.offsetMask? (b.hart.read .a2).toNat = some mask)
    (aligned : b.hart.read .a1 &&& mask = 0) (inPage : b.log.InOnePage mask) (fits : b.log.Fits) :
    let log := (raise t b).state.log
    let place := fun a => (a &&& mask) ||| b.hart.read .a1
    (¬(Architecture.recorded b t).FillsPage mask →
      log.virtualBase = place b.log.virtualBase ∧
        (∀ i < b.log.capacity.toNat, log.address i = place (b.log.address i)) ∧
        log.InOnePage mask ∧ log.virtualBase &&& ~~~mask = b.hart.read .a1) ∧
    ((Architecture.recorded b t).FillsPage mask →
      log.virtualCursor = b.hart.read .a1 ∧
        ∀ i < b.log.capacity.toNat, log.address i = place (b.log.address i) - (mask + 1)) := by
  intro log place
  have handed : (Architecture.recorded b t).InOnePage mask := ⟨inPage.nonempty, inPage.room⟩
  have moved : log = (Architecture.recorded b t).moved mask (b.hart.read .a1) :=
    log_of_raise accepted asks known
  constructor
  · intro inside
    have base : log.virtualBase = place b.log.virtualBase := by
      rw [moved]
      exact Log.virtualBase_moved known handed aligned (fits_recorded accepted fits) inside
    have capacity := (footprint_of_raise accepted).region.1
    obtain ⟨whole, there⟩ := Log.inOnePage_of_place inPage aligned capacity base
    refine ⟨base, fun i within => ?_, whole, there⟩
    have address := Log.address_eq_sub (d := 0) known inPage aligned within
      (base.trans (BitVec.sub_zero _).symm)
    rw [address]
    exact BitVec.sub_zero _
  · intro fills
    have cursor : log.virtualCursor = b.hart.read .a1 := by
      rw [moved]
      exact Log.virtualCursor_moved_of_fillsPage known handed fills
    have base : log.virtualBase = place b.log.virtualBase - (mask + 1) := by
      rw [moved]
      exact Log.virtualBase_moved_of_fillsPage known handed fills aligned
    exact ⟨cursor, fun i within => Log.address_eq_sub known inPage aligned within base⟩

/-- The region of the default settings is a whole page; it goes along with the program. -/
theorem region_follows_cursor_movingCall :
    let t := Trap.environmentCall .user 0x1FFC
    let log := (raise t (movingCall 0)).state.log
    (raise t (movingCall 0)).result = .ok (.resumed 0x40000000 .supervisor) ∧
      (movingCall 0).log.InOnePage 0xFFF ∧
      ¬(Architecture.recorded (movingCall 0) t).FillsPage 0xFFF ∧
      (movingCall 0).log.virtualBase = 0x80002000 ∧ log.virtualBase = 0x40000000 ∧
      log.address 511 = ((movingCall 0).log.address 511 &&& 0xFFF) ||| 0x40000000 := by
  intro t log
  have accepted : (raise t (movingCall 0)).result = .ok (.resumed 0x40000000 .supervisor) := by decide
  have inPage : (movingCall 0).log.InOnePage 0xFFF := by decide
  have inside : ¬(Architecture.recorded (movingCall 0) t).FillsPage 0xFFF := by decide
  obtain ⟨base, address, -⟩ :=
    (region_follows_cursor accepted (by decide) (by decide) (by decide) inPage (Nat.zero_le _)).1 inside
  exact ⟨accepted, inPage, inside, by decide, base.trans (by decide), address 511 (by decide)⟩

/-- A program that asks for another page when the only word of its log, the last of a page, is taken. -/
def filledPage : Bench :=
  let b := (start { logCapacity := 1, virtualLogBase := 0x80002FF8 }).withHandler .machine 0x80000100
    .vectored
  (append 0x2A b).state.setRequest { op := 4, page := 0x40000000, pageType := 0 }

/-- The word goes in front of the page to which the program goes. -/
theorem full_region_misses_page :
    let t := Trap.environmentCall .machine 0x80000000
    (raise t filledPage).result = .ok (.resumed 0x40000004 .user) ∧
      filledPage.log.InOnePage 0xFFF ∧ filledPage.log.virtualBase = 0x80002FF8 ∧
      (raise t filledPage).state.log.virtualBase = 0x3FFFFFF8 ∧
      ¬∀ b t o mask, (raise t b).result = .ok o → Architecture.AsksToMove b.hart t →
        Architecture.offsetMask? (b.hart.read .a2).toNat = some mask → b.hart.read .a1 &&& mask = 0 →
        b.log.InOnePage mask → b.log.Fits →
        ∀ i < b.log.capacity.toNat,
          (raise t b).state.log.address i = (b.log.address i &&& mask) ||| b.hart.read .a1 := by
  intro t
  have accepted : (raise t filledPage).result = .ok (.resumed 0x40000004 .user) := by decide
  have inPage : filledPage.log.InOnePage 0xFFF := by decide
  have front : (raise t filledPage).state.log.virtualBase = 0x3FFFFFF8 := by decide
  refine ⟨accepted, inPage, by decide, front, fun moves => ?_⟩
  have address := moves filledPage t _ 0xFFF accepted (by decide) (by decide) (by decide) inPage
    (Nat.le_refl 1) 0 (by decide)
  unfold Log.address at address
  rw [front] at address
  revert address
  decide

end Bench

end HartTraps
