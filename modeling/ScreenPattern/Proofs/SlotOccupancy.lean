import ScreenPattern.Conformance

/-!
What the count of components in each slot says of the components. No two kinds lead to one slot, so
a slot has taken exactly the components of its kind, and a component finds another one in its slot
if and only if its kind has occurred before.
-/

namespace ScreenPattern.Proofs.SlotOccupancy

variable {slots : Slots} {earlier : List Component} {occupied : Occupancy} {c : Component}
  {slot : String}

theorem kind?_of_slotFor? {kind : ComponentKind} (h : slots.slotFor? kind = some slot) :
    Slot.kind? slot = some kind := by
  have hfound := List.find?_some h
  exact eq_of_beq hfound

theorem slotFor?_eq_some_iff {kind other : ComponentKind} (h : slots.slotFor? kind = some slot) :
    slots.slotFor? other = some slot ↔ other = kind := by
  constructor
  · intro hother
    have hkinds := (kind?_of_slotFor? hother).symm.trans (kind?_of_slotFor? h)
    exact Option.some.inj hkinds
  · rintro rfl
    exact h

/-- The count is that of the components so far whose kind leads to the slot. -/
def Tallies (slots : Slots) (earlier : List Component) (occupied : Occupancy) : Prop :=
  ∀ slot, occupied.taken slot = earlier.countP fun c => slots.slotFor? c.kind == some slot

theorem tallies_nil : Tallies slots [] [] := by
  intro slot
  rfl

theorem Tallies.pass (h : Tallies slots earlier occupied) (hslot : slots.slotFor? c.kind = none) :
    Tallies slots (earlier ++ [c]) occupied := by
  intro other
  rw [h other, List.countP_append, List.countP_singleton, hslot]
  rfl

theorem Tallies.add (h : Tallies slots earlier occupied)
    (hslot : slots.slotFor? c.kind = some slot) :
    Tallies slots (earlier ++ [c]) (occupied.add slot) := by
  intro other
  rw [Occupancy.taken_add, List.countP_append, List.countP_singleton, hslot, h slot, h other]
  by_cases hother : other = slot
  · subst hother
    simp
  · simp [hother, Ne.symm hother]

theorem Tallies.one_lt_taken_add_iff (h : Tallies slots earlier occupied)
    (hslot : slots.slotFor? c.kind = some slot) :
    1 < (occupied.add slot).taken slot ↔ ∃ e ∈ earlier, e.kind = c.kind := by
  rw [Occupancy.taken_add, if_pos rfl, h slot, Nat.lt_add_left_iff_pos, List.countP_pos_iff]
  simp only [beq_iff_eq, slotFor?_eq_some_iff hslot]

/-- The kind of the component has a slot and occurs before. -/
def isRepeated (slots : Slots) (components : List Component) (e : Component × Nat) : Bool :=
  slots.allows e.1.kind && (components.take e.2).any fun earlier => earlier.kind == e.1.kind

def repetition (contract : Contract) (e : Component × Nat) : Violation :=
  ⟨.duplicateSlotComponent, Path.index "components" e.2,
    toString e.1.kind ++ " component repeats slot "
      ++ Text.quote ((contract.slots.slotFor? e.1.kind).getD "")⟩

theorem isRepeated_append_cons (slots : Slots) (earlier : List Component) (c : Component)
    (rest : List Component) :
    isRepeated slots (earlier ++ c :: rest) (c, earlier.length) = true ↔
      slots.allows c.kind = true ∧ ∃ e ∈ earlier, e.kind = c.kind := by
  simp [isRepeated]

/-- The induction is on the components that are left, and goes through for any count that is right
for those before them. -/
theorem repetitionsFrom_eq {contract : Contract} (h : Tallies contract.slots earlier occupied)
    (rest : List Component) :
    contract.repetitionsFrom occupied (rest.zipIdx earlier.length) =
      ((rest.zipIdx earlier.length).filter
        (isRepeated contract.slots (earlier ++ rest))).map (repetition contract) := by
  induction rest generalizing earlier occupied with
  | nil => rfl
  | cons c rest ih =>
      have hlength : (earlier ++ [c]).length = earlier.length + 1 := List.length_append
      have happend : earlier ++ [c] ++ rest = earlier ++ c :: rest :=
        (List.append_cons earlier c rest).symm
      have hrepeated := isRepeated_append_cons contract.slots earlier c rest
      rw [List.zipIdx_cons, Contract.repetitionsFrom]
      cases hslot : contract.slots.slotFor? c.kind with
      | none =>
          have hpass := ih (h.pass hslot)
          rw [hlength, happend] at hpass
          rw [List.filter_cons_of_neg (by simp [hrepeated, Slots.allows, hslot])]
          exact hpass
      | some slot =>
          have hcounted := ih (h.add hslot)
          rw [hlength, happend] at hcounted
          simp only [h.one_lt_taken_add_iff hslot]
          have hallowed : contract.slots.allows c.kind = true := by simp [Slots.allows, hslot]
          split
          · rename_i hbefore
            rw [List.filter_cons_of_pos (hrepeated.mpr ⟨hallowed, hbefore⟩), List.map_cons,
              hcounted, repetition, hslot]
            rfl
          · rename_i hnew
            rw [List.filter_cons_of_neg fun hrep => hnew (hrepeated.mp hrep).2]
            exact hcounted

/-- A component is reported exactly if it is repeated. -/
theorem repetitionWarnings_eq (contract : Contract) (components : List Component) :
    contract.repetitionWarnings components =
      (components.zipIdx.filter (isRepeated contract.slots components)).map
        (repetition contract) :=
  repetitionsFrom_eq tallies_nil components

theorem mem_filter_isRepeated_iff (components : List Component) (c : Component) (i : Nat) :
    (c, i) ∈ components.zipIdx.filter (isRepeated slots components) ↔
      components[i]? = some c ∧ slots.allows c.kind = true ∧
        ∃ earlier ∈ components.take i, earlier.kind = c.kind := by
  simp [isRepeated, List.mem_zipIdx_iff_getElem?]

end ScreenPattern.Proofs.SlotOccupancy
