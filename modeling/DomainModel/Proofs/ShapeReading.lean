import DomainModel.Proofs.JsonDocuments

/-! Reading documents as shapes, and objects without a fault. Reading goes through the members of an object from left
to right and stops at the first fault; taken over all members, an object that stands for a value is free of faults
exactly when no key that the record knows is written twice, each of its slots is free of faults, and no slot that
must be filled is missing. -/

namespace DomainModel.Json

namespace Document

/-- The keys of an object that are among the names, as often as they are written. -/
def keysAmong (names : List String) (members : List (Document × Document)) : List String :=
  (keys members).filter names.contains

theorem keysAmong_cons_of_mem {names : List String} {key : String} (h : key ∈ names) (doc : Document)
    (rest : List (Document × Document)) :
    keysAmong names ((.text (some key), doc) :: rest) = key :: keysAmong names rest :=
  List.filter_cons_of_pos (List.contains_iff_mem.2 h)

theorem keysAmong_cons_of_not_mem {names : List String} {key : String} (h : key ∉ names) (doc : Document)
    (rest : List (Document × Document)) :
    keysAmong names ((.text (some key), doc) :: rest) = keysAmong names rest :=
  List.filter_cons_of_neg (by rwa [List.contains_iff_mem])

theorem keysAmong_congr {names others : List String} (h : ∀ name, name ∈ names ↔ name ∈ others)
    (members : List (Document × Document)) : keysAmong names members = keysAmong others members := by
  refine List.filter_congr fun key _ => ?_
  rw [Bool.eq_iff_iff, List.contains_iff_mem, List.contains_iff_mem, h key]

/-- A name that is not repeated is written once at most. -/
theorem count_keys_le_one {names : List String} {members : List (Document × Document)}
    (h : (keysAmong names members).Nodup) {key : String} (hkey : key ∈ names) : (keys members).count key ≤ 1 := by
  have hcount : (keysAmong names members).count key = (keys members).count key :=
    List.count_filter (List.contains_iff_mem.2 hkey)
  rw [← hcount]
  exact List.nodup_iff_count_le_one.1 h key

end Document

namespace Shape

open Document

/-! ### Reading -/

theorem read_of_fault?_eq_none {α : Type} {shape : Shape α} {doc : Document} (h : shape.fault? doc = none) :
    shape.read doc = .ok (shape.build doc) := by
  rw [read, h]

theorem readText_of_ofText {α : Type} {shape : Shape α} {text : String} {doc : Document} (h : ofText text = (doc, true)) :
    shape.readText text = shape.read doc := by
  rw [readText, h]
  cases hread : shape.read doc with
  | ok result => simp only [hread]; rfl
  | error fault => simp only [hread]; rfl

theorem exists_build_of_readText {α : Type} {shape : Shape α} {text : String} {a : α}
    (h : shape.readText text = .ok a) : ∃ doc, shape.build doc = a := by
  rw [readText] at h
  generalize ofText text = reading at h
  obtain ⟨doc, whole⟩ := reading
  dsimp only at h
  rw [read] at h
  cases hfault : shape.fault? doc with
  | some fault =>
      rw [hfault] at h
      cases h
  | none =>
      rw [hfault] at h
      cases whole with
      | false => cases h
      | true =>
          cases h
          exact ⟨doc, rfl⟩

theorem optional_fault? {α : Type} {shape : Shape α} {doc : Document} (h : doc ≠ .null) :
    shape.optional.fault? doc = shape.fault? doc := by
  cases doc with
  | null => exact absurd rfl h
  | _ => rfl

theorem optional_build {α : Type} {shape : Shape α} {doc : Document} (h : doc ≠ .null) :
    shape.optional.build doc = some (shape.build doc) := by
  cases doc with
  | null => exact absurd rfl h
  | _ => rfl

/-! ### Records -/

/-- Every slot of the record is free of faults, wherever the object has its key. -/
def SlotsRead (slots : List Slot) (members : List (Document × Document)) : Prop :=
  ∀ slot ∈ slots, ∀ doc, (.text (some slot.key), doc) ∈ members → slot.fault? doc = none

/-- Every slot that must be filled has its key among those seen or in the object. -/
def SlotsFilled (slots : List Slot) (seen : List String) (members : List (Document × Document)) : Prop :=
  ∀ slot ∈ slots, slot.required = true → slot.key ∈ seen ∨ slot.key ∈ keys members

section Slots
variable {slots : List Slot} {key : String} {doc : Document} {rest : List (Document × Document)}

theorem slotsRead_cons : SlotsRead slots ((.text (some key), doc) :: rest) ↔
    (∀ slot ∈ slots, slot.key = key → slot.fault? doc = none) ∧ SlotsRead slots rest := by
  constructor
  · intro h
    refine ⟨fun slot hslot hkey => h slot hslot doc (hkey ▸ List.mem_cons_self), fun slot hslot other hmem => ?_⟩
    exact h slot hslot other (List.mem_cons_of_mem _ hmem)
  · rintro ⟨hfirst, hrest⟩ slot hslot other hmem
    rcases List.mem_cons.1 hmem with heq | hmem
    · cases heq
      exact hfirst slot hslot rfl
    · exact hrest slot hslot other hmem

theorem slotsFilled_cons {seen : List String} :
    SlotsFilled slots seen ((.text (some key), doc) :: rest) ↔ SlotsFilled slots (key :: seen) rest := by
  simp only [SlotsFilled, keys_cons, List.mem_cons]
  refine forall₃_congr fun slot _ _ => ?_
  tauto

/-- A key that is no slot's fills none. -/
theorem slotsFilled_cons_of_unknown {seen : List String} (hunknown : ∀ slot ∈ slots, slot.key ≠ key) :
    SlotsFilled slots (key :: seen) rest ↔ SlotsFilled slots seen rest := by
  refine forall₃_congr fun slot hslot _ => ?_
  rw [List.mem_cons, or_iff_right (hunknown slot hslot)]

end Slots

/-- **What it takes for an object to be read as a record.** -/
theorem membersFault?_eq_none_iff {slots : List Slot} (hslots : (slots.map (·.key)).Nodup)
    {members : List (Document × Document)} {before values : List (String × Value)}
    (h : toMembers? before members = some values) {seen : List String} :
    membersFault? slots seen true members = none ↔
      ((keysAmong (slots.map (·.key)) members).Nodup ∧ ∀ key ∈ keysAmong (slots.map (·.key)) members, key ∉ seen) ∧
        SlotsRead slots members ∧ SlotsFilled slots seen members := by
  induction members generalizing before seen with
  | nil => simp [membersFault?, keysAmong, SlotsRead, SlotsFilled, Decidable.imp_iff_not_or]
  | cons member rest ih =>
      obtain ⟨key, doc, value, rfl, hvalue, hrest⟩ := toMembers?_cons h
      rw [slotsRead_cons, slotsFilled_cons, membersFault?]
      cases hfound : slots.find? (·.key == key) with
      | some slot =>
          have hmem := List.mem_of_find?_eq_some hfound
          have hkey := List.find?_some hfound
          rw [beq_iff_eq] at hkey
          -- no two slots have one key, so the slot that is found is the only one to judge the member
          have honly : (∀ other ∈ slots, other.key = key → other.fault? doc = none) ↔ slot.fault? doc = none := by
            refine ⟨fun hall => hall slot hmem hkey, fun hslot other hother hsame => ?_⟩
            rwa [List.inj_on_of_nodup_map hslots hother hmem (hsame.trans hkey.symm)]
          rw [honly, keysAmong_cons_of_mem (List.mem_map.2 ⟨slot, hmem, hkey⟩), List.nodup_cons, List.forall_mem_cons]
          dsimp only
          split
          · next hseen =>
              rw [List.contains_iff_mem] at hseen
              exact iff_of_false nofun fun hall => hall.1.2.1 hseen
          · next hseen =>
              rw [List.contains_iff_mem] at hseen
              rw [Option.or_eq_none_iff, ih hrest]
              simp only [List.mem_cons, not_or]
              constructor
              · rintro ⟨hslot, ⟨hnodup, hnew⟩, hread, hfilled⟩
                exact ⟨⟨⟨fun hagain => (hnew key hagain).1 rfl, hnodup⟩, hseen,
                    fun other hother => (hnew other hother).2⟩,
                  ⟨hslot, hread⟩, hfilled⟩
              · rintro ⟨⟨⟨hagain, hnodup⟩, -, hnew⟩, ⟨hslot, hread⟩, hfilled⟩
                refine ⟨hslot, ⟨hnodup, fun other hother => ⟨?_, hnew other hother⟩⟩, hread, hfilled⟩
                rintro rfl
                exact hagain hother
      | none =>
          have hunknown : ∀ slot ∈ slots, slot.key ≠ key := by
            intro slot hslot hsame
            exact List.find?_eq_none.1 hfound slot hslot (beq_iff_eq.2 hsame)
          have hnot : key ∉ slots.map (·.key) := by
            rintro hmem
            obtain ⟨slot, hslot, hsame⟩ := List.mem_map.1 hmem
            exact hunknown slot hslot hsame
          rw [keysAmong_cons_of_not_mem hnot, slotsFilled_cons_of_unknown hunknown]
          dsimp only
          -- a member that no slot knows is passed over, as it is whole
          rw [if_pos (isIntact_of_toValue? doc hvalue), ih hrest,
            and_iff_right (fun slot hslot hsame => absurd hsame (hunknown slot hslot))]

end Shape

end DomainModel.Json
