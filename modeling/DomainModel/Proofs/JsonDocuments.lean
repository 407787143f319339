import DomainModel.Json.Reader
import DomainModel.Json.Shape
import Mathlib.Data.List.Nodup

/-! Documents and the values that they stand for. A value has each key of an object once; a document may have a
key twice, and then the last place counts. So a document and its value hold the same under every key that the
document has at most once, and a value written out as a document stands for itself. -/

namespace DomainModel.Json

/-! ### Values whose objects have each key once -/

namespace Value

mutual

/-- No object in the value has a key twice. -/
def hasDistinctKeys : Value → Bool
  | .list items => allHaveDistinctKeys items
  | .object members => decide (members.map (·.1)).Nodup && membersHaveDistinctKeys members
  | _ => true

/-- No object in the items has a key twice. -/
def allHaveDistinctKeys : List Value → Bool
  | [] => true
  | value :: rest => hasDistinctKeys value && allHaveDistinctKeys rest

/-- No object below the members has a key twice. -/
def membersHaveDistinctKeys : List (String × Value) → Bool
  | [] => true
  | (_, value) :: rest => hasDistinctKeys value && membersHaveDistinctKeys rest

end

theorem allHaveDistinctKeys_iff {items : List Value} :
    allHaveDistinctKeys items = true ↔ ∀ value ∈ items, value.hasDistinctKeys = true := by
  induction items with
  | nil => simp [allHaveDistinctKeys]
  | cons value rest ih => rw [allHaveDistinctKeys, Bool.and_eq_true, ih, List.forall_mem_cons]

theorem membersHaveDistinctKeys_iff {members : List (String × Value)} :
    membersHaveDistinctKeys members = true ↔ ∀ member ∈ members, member.2.hasDistinctKeys = true := by
  induction members with
  | nil => simp [membersHaveDistinctKeys]
  | cons member rest ih => rw [membersHaveDistinctKeys, Bool.and_eq_true, ih, List.forall_mem_cons]

theorem hasDistinctKeys_object {members : List (String × Value)} :
    (object members).hasDistinctKeys = true ↔
      (members.map (·.1)).Nodup ∧ ∀ member ∈ members, member.2.hasDistinctKeys = true := by
  rw [hasDistinctKeys, Bool.and_eq_true, decide_eq_true_iff, membersHaveDistinctKeys_iff]

theorem hasDistinctKeys_list {items : List Value} :
    (list items).hasDistinctKeys = true ↔ ∀ value ∈ items, value.hasDistinctKeys = true := by
  rw [hasDistinctKeys, allHaveDistinctKeys_iff]

end Value

theorem mem_of_lookup {β : Type} {entries : List (String × β)} {key : String} {b : β} (h : entries.lookup key = some b) :
    (key, b) ∈ entries := by
  obtain ⟨before, after, rfl, -⟩ := List.lookup_eq_some_iff.1 h
  exact List.mem_append_right _ List.mem_cons_self

theorem eq_of_lookup {β : Type} {entries : List (String × β)} (hnodup : (entries.map (·.1)).Nodup) {key : String}
    {b other : β} (h : entries.lookup key = some b) (hmem : (key, other) ∈ entries) : b = other :=
  (Prod.ext_iff.1 (List.inj_on_of_nodup_map hnodup (mem_of_lookup h) hmem rfl)).2

theorem member?_cons {key other : String} {value : Value} {rest : List (String × Value)} :
    member? ((other, value) :: rest) key = if other = key then some value else member? rest key := by
  rw [member?, List.lookup_cons]
  by_cases h : other = key
  · rw [if_pos h, beq_iff_eq.2 h.symm]
  · rw [if_neg h, beq_eq_false_iff_ne.2 (Ne.symm h)]
    rfl

theorem member?_setMember {members : List (String × Value)} {key other : String} {value : Value} :
    member? (setMember members key value) other = if key = other then some value else member? members other := by
  induction members with
  | nil => rw [setMember, member?_cons]
  | cons member rest ih =>
      obtain ⟨first, held⟩ := member
      rw [setMember]
      split
      · next hfirst =>
          rw [beq_iff_eq] at hfirst
          rw [member?_cons, member?_cons, hfirst]
          split <;> rfl
      · next hfirst =>
          rw [beq_iff_eq] at hfirst
          rw [member?_cons, member?_cons, ih]
          by_cases hother : first = other
          · rw [if_pos hother, if_pos hother, if_neg]
            rintro rfl
            exact hfirst hother
          · rw [if_neg hother, if_neg hother]

theorem mem_keys_setMember {members : List (String × Value)} {key other : String} {value : Value} :
    other ∈ (setMember members key value).map (·.1) ↔ other = key ∨ other ∈ members.map (·.1) := by
  induction members with
  | nil => simp [setMember]
  | cons member rest ih =>
      obtain ⟨first, held⟩ := member
      rw [setMember]
      split
      · next hfirst =>
          rw [beq_iff_eq] at hfirst
          simp [hfirst]
      · rw [List.map_cons, List.mem_cons, ih, List.map_cons, List.mem_cons]
        tauto

theorem nodup_keys_setMember {members : List (String × Value)} {key : String} {value : Value}
    (h : (members.map (·.1)).Nodup) : ((setMember members key value).map (·.1)).Nodup := by
  induction members with
  | nil => exact List.nodup_singleton key
  | cons member rest ih =>
      obtain ⟨first, held⟩ := member
      rw [List.map_cons, List.nodup_cons] at h
      rw [setMember]
      split
      · next hfirst =>
          rw [beq_iff_eq] at hfirst
          rw [List.map_cons, List.nodup_cons]
          exact hfirst ▸ h
      · next hfirst =>
          rw [beq_iff_eq] at hfirst
          rw [List.map_cons, List.nodup_cons, mem_keys_setMember, not_or]
          exact ⟨⟨hfirst, h.1⟩, ih h.2⟩

theorem mem_setMember {members : List (String × Value)} {key : String} {value : Value} {member : String × Value}
    (h : member ∈ setMember members key value) : member = (key, value) ∨ member ∈ members := by
  induction members with
  | nil => exact .inl (List.mem_singleton.1 h)
  | cons first rest ih =>
      obtain ⟨other, held⟩ := first
      rw [setMember] at h
      split at h
      · rcases List.mem_cons.1 h with h | h
        · exact .inl h
        · exact .inr (List.mem_cons_of_mem _ h)
      · rcases List.mem_cons.1 h with h | h
        · exact .inr (List.mem_cons.2 (.inl h))
        · exact (ih h).imp_right (List.mem_cons_of_mem _)

/-! ### Documents that stand for a value -/

namespace Document

/-- The text of a key. -/
def keyText? : Document × Document → Option String
  | (.text key, _) => key
  | _ => none

/-- The keys of an object, as often as they are written. -/
def keys (members : List (Document × Document)) : List String := members.filterMap keyText?

@[simp] theorem keys_nil : keys [] = [] := rfl

@[simp] theorem keys_cons (key : String) (doc : Document) (rest : List (Document × Document)) :
    keys ((.text (some key), doc) :: rest) = key :: keys rest := rfl

theorem mem_keys {members : List (Document × Document)} {key : String} {doc : Document}
    (h : (.text (some key), doc) ∈ members) : key ∈ keys members :=
  List.mem_filterMap.2 ⟨_, h, rfl⟩

theorem mem_of_member? {members : List (Document × Document)} {key : String} {doc : Document}
    (h : member? key members = some doc) : (.text (some key), doc) ∈ members := by
  induction members with
  | nil => cases h
  | cons member rest ih =>
      rw [member?.eq_def] at h
      split at h
      · next heq => cases heq
      · next name held rest' heq =>
          cases heq
          split at h
          · next hname =>
              cases h
              rw [beq_iff_eq.1 hname]
              exact List.mem_cons_self
          · exact List.mem_cons_of_mem _ (ih h)
      · next heq =>
          cases heq
          exact List.mem_cons_of_mem _ (ih h)

theorem mem_keys_of_member? {members : List (Document × Document)} {key : String} {doc : Document}
    (h : member? key members = some doc) : key ∈ keys members :=
  mem_keys (mem_of_member? h)

/-- The first of the members counts when an object is read, and every key has a text. -/
theorem toMembers?_cons {before values : List (String × Value)} {member : Document × Document}
    {rest : List (Document × Document)} (h : toMembers? before (member :: rest) = some values) :
    ∃ key doc value, member = (.text (some key), doc) ∧ toValue? doc = some value ∧
      toMembers? (setMember before key value) rest = some values := by
  obtain ⟨key, doc⟩ := member
  rw [toMembers?.eq_def] at h
  split at h
  · next heq => cases heq
  · next name doc' rest' heq =>
      cases heq
      split at h
      · next value hvalue => exact ⟨name, doc, value, rfl, hvalue, h⟩
      · cases h
  · cases h

theorem toValue?_eq_text {doc : Document} {text : String} (h : toValue? doc = some (.text text)) :
    doc = .text (some text) := by
  cases doc <;> simp_all [toValue?]

theorem toValue?_eq_bool {doc : Document} {flag : Bool} (h : toValue? doc = some (.bool flag)) : doc = .bool flag := by
  cases doc <;> simp_all [toValue?]

theorem toValue?_eq_number {doc : Document} {n : Number} (h : toValue? doc = some (.number n)) :
    doc = .number (some n) := by
  cases doc <;> simp_all [toValue?]

theorem toValue?_eq_null {doc : Document} (h : toValue? doc = some .null) : doc = .null := by
  cases doc <;> simp_all [toValue?]

theorem toValue?_eq_list {doc : Document} {values : List Value} (h : toValue? doc = some (.list values)) :
    ∃ items, doc = .list items true ∧ toValues? items = some values := by
  cases doc <;> simp_all [toValue?]

theorem toValue?_eq_object {doc : Document} {values : List (String × Value)}
    (h : toValue? doc = some (.object values)) :
    ∃ members, doc = .object members true ∧ toMembers? [] members = some values := by
  cases doc <;> simp_all [toValue?]

/-- All members of an object that stands for a value stand for values. -/
theorem exists_toValue?_of_mem {members : List (Document × Document)} {before values : List (String × Value)}
    (h : toMembers? before members = some values) {key doc : Document} (hmem : (key, doc) ∈ members) :
    ∃ value, toValue? doc = some value := by
  induction members generalizing before with
  | nil => exact absurd hmem List.not_mem_nil
  | cons member rest ih =>
      obtain ⟨_, _, value, rfl, hvalue, hrest⟩ := toMembers?_cons h
      rcases List.mem_cons.1 hmem with heq | hmem
      · cases heq
        exact ⟨value, hvalue⟩
      · exact ih hrest hmem

/-- Under a key that is written once at most, an object holds one document at most. -/
theorem mem_iff_member?_eq_some {members : List (Document × Document)} {key : String} {doc : Document}
    (hkey : (keys members).count key ≤ 1) : (.text (some key), doc) ∈ members ↔ member? key members = some doc := by
  refine ⟨fun hmem => ?_, mem_of_member?⟩
  induction members with
  | nil => exact absurd hmem List.not_mem_nil
  | cons member rest ih =>
      rcases List.mem_cons.1 hmem with rfl | hlater
      · rw [member?, if_pos (beq_self_eq_true key)]
      -- the key is in the rest already, so it cannot be the key of the first member as well
      · have hagain : 0 < (keys rest).count key := List.count_pos_iff.2 (mem_keys hlater)
        have hrest : (keys rest).count key ≤ (keys (member :: rest)).count key :=
          (List.sublist_cons_self member rest |>.filterMap keyText?).count_le key
        rw [member?.eq_def]
        split
        · next heq => cases heq
        · next name held rest' heq =>
            cases heq
            split
            · next hname =>
                rw [keys_cons, beq_iff_eq.1 hname, List.count_cons_self] at hkey
                omega
            · exact ih (Nat.le_trans hrest hkey) hlater
        · next heq =>
            cases heq
            exact ih (Nat.le_trans hrest hkey) hlater

mutual

/-- What stands for a value is whole. -/
theorem isIntact_of_toValue? : ∀ (doc : Document) {value : Value}, toValue? doc = some value → isIntact doc = true
  | .null, _, _ => rfl
  | .bool _, _, _ => rfl
  | .number _, _, _ => rfl
  | .text _, _, _ => rfl
  | .list items closed, value, h => by
      rw [toValue?] at h
      split at h
      · next hclosed =>
          obtain ⟨values, hvalues, -⟩ := Option.map_eq_some_iff.1 h
          rw [isIntact, hclosed, Bool.and_true]
          exact itemsAreIntact_of_toValues? items hvalues
      · cases h
  | .object members closed, value, h => by
      rw [toValue?] at h
      split at h
      · next hclosed =>
          obtain ⟨values, hvalues, -⟩ := Option.map_eq_some_iff.1 h
          rw [isIntact, hclosed, Bool.and_true]
          exact membersAreIntact_of_toMembers? members hvalues
      · cases h
  | .broken, value, h => by cases h

theorem itemsAreIntact_of_toValues? : ∀ (items : List Document) {values : List Value},
    toValues? items = some values → itemsAreIntact items = true
  | [], _, _ => rfl
  | item :: rest, values, h => by
      rw [toValues?] at h
      split at h
      · next hvalue hrest =>
          rw [itemsAreIntact, isIntact_of_toValue? item hvalue, itemsAreIntact_of_toValues? rest hrest, Bool.and_true]
      · cases h

theorem membersAreIntact_of_toMembers? : ∀ (members : List (Document × Document)) {before values : List (String × Value)},
    toMembers? before members = some values → membersAreIntact members = true
  | [], _, _, _ => rfl
  | (key, doc) :: rest, before, values, h => by
      obtain ⟨_, _, _, heq, hvalue, hrest⟩ := toMembers?_cons h
      cases heq
      rw [membersAreIntact, isIntact_of_toValue? doc hvalue, membersAreIntact_of_toMembers? rest hrest, Bool.and_true]

end

theorem forall₂_of_toValues? {items : List Document} {values : List Value} (h : toValues? items = some values) :
    List.Forall₂ (fun doc value => toValue? doc = some value) items values := by
  induction items generalizing values with
  | nil =>
      cases h
      exact .nil
  | cons item rest ih =>
      rw [toValues?] at h
      split at h
      · next hvalue hrest =>
          cases h
          exact .cons hvalue (ih hrest)
      · cases h

/-- Where a document has a key at most once, its value holds the same under that key. -/
theorem member?_of_toMembers? {members : List (Document × Document)} {before values : List (String × Value)}
    (h : toMembers? before members = some values) {key : String} (hkey : (keys members).count key ≤ 1) :
    Json.member? values key = ((member? key members).bind toValue?).or (Json.member? before key) := by
  induction members generalizing before with
  | nil =>
      cases h
      rfl
  | cons member rest ih =>
      obtain ⟨first, doc, value, rfl, hvalue, hrest⟩ := toMembers?_cons h
      rw [keys_cons, List.count_cons] at hkey
      rw [member?, ih hrest (by omega), member?_setMember]
      by_cases hfirst : first = key
      · rw [if_pos (beq_iff_eq.2 hfirst)] at hkey
        -- the key is not in the rest again, so nothing replaces the value of this member
        have hnone : member? key rest = none := by
          cases hfound : member? key rest with
          | none => rfl
          | some found =>
              have hcount : 0 < (keys rest).count key := List.count_pos_iff.2 (mem_keys_of_member? hfound)
              omega
        rw [if_pos (beq_iff_eq.2 hfirst), if_pos hfirst, hnone, Option.bind_some, hvalue]
        rfl
      · rw [if_neg hfirst, if_neg (show ¬ (first == key) = true by rwa [beq_iff_eq])]

theorem nodup_keys_of_toMembers? {members : List (Document × Document)} {before values : List (String × Value)}
    (h : toMembers? before members = some values) (hbefore : (before.map (·.1)).Nodup) : (values.map (·.1)).Nodup := by
  induction members generalizing before with
  | nil =>
      cases h
      exact hbefore
  | cons member rest ih =>
      obtain ⟨_, _, _, rfl, -, hrest⟩ := toMembers?_cons h
      exact ih hrest (nodup_keys_setMember hbefore)

mutual

/-- The value of a document has each key once. -/
theorem hasDistinctKeys_of_toValue? : ∀ (doc : Document) {value : Value}, toValue? doc = some value →
    value.hasDistinctKeys = true
  | .null, _, h => by cases h; rfl
  | .bool _, _, h => by cases h; rfl
  | .number _, _, h => by
      obtain ⟨_, -, rfl⟩ := Option.map_eq_some_iff.1 h
      rfl
  | .text _, _, h => by
      obtain ⟨_, -, rfl⟩ := Option.map_eq_some_iff.1 h
      rfl
  | .list items closed, value, h => by
      rw [toValue?] at h
      split at h
      · obtain ⟨values, hvalues, rfl⟩ := Option.map_eq_some_iff.1 h
        exact Value.hasDistinctKeys_list.2 (hasDistinctKeys_of_toValues? items hvalues)
      · cases h
  | .object members closed, value, h => by
      rw [toValue?] at h
      split at h
      · obtain ⟨values, hvalues, rfl⟩ := Option.map_eq_some_iff.1 h
        refine Value.hasDistinctKeys_object.2 ⟨nodup_keys_of_toMembers? hvalues List.nodup_nil, ?_⟩
        exact hasDistinctKeys_of_toMembers? members hvalues (by simp)
      · cases h
  | .broken, _, h => by cases h

theorem hasDistinctKeys_of_toValues? : ∀ (items : List Document) {values : List Value}, toValues? items = some values →
    ∀ value ∈ values, value.hasDistinctKeys = true
  | [], values, h => by
      cases h
      exact fun _ hmem => absurd hmem List.not_mem_nil
  | item :: rest, values, h => by
      rw [toValues?] at h
      split at h
      · next hvalue hrest =>
          cases h
          exact List.forall_mem_cons.2 ⟨hasDistinctKeys_of_toValue? item hvalue, hasDistinctKeys_of_toValues? rest hrest⟩
      · cases h

theorem hasDistinctKeys_of_toMembers? : ∀ (members : List (Document × Document)) {before values : List (String × Value)},
    toMembers? before members = some values → (∀ member ∈ before, member.2.hasDistinctKeys = true) →
      ∀ member ∈ values, member.2.hasDistinctKeys = true
  | [], _, _, h, hbefore => by
      cases h
      exact hbefore
  | (_, doc) :: rest, _, _, h, hbefore => by
      obtain ⟨key, _, value, heq, hvalue, hrest⟩ := toMembers?_cons h
      cases heq
      refine hasDistinctKeys_of_toMembers? rest hrest fun member hmem => ?_
      rcases mem_setMember hmem with rfl | hmem
      · exact hasDistinctKeys_of_toValue? doc hvalue
      · exact hbefore member hmem

end

theorem setMember_of_not_mem {members : List (String × Value)} {key : String} {value : Value}
    (h : key ∉ members.map (·.1)) : setMember members key value = members ++ [(key, value)] := by
  induction members with
  | nil => rfl
  | cons member rest ih =>
      obtain ⟨first, held⟩ := member
      rw [List.map_cons, List.mem_cons, not_or] at h
      rw [setMember, if_neg (by simpa using Ne.symm h.1), ih h.2, List.cons_append]

mutual

/-- A value with distinct keys, written out, stands for itself. -/
theorem toValue?_ofValue : ∀ (value : Value), value.hasDistinctKeys = true → toValue? (ofValue value) = some value
  | .null, _ => rfl
  | .bool _, _ => rfl
  | .number _, _ => rfl
  | .text _, _ => rfl
  | .list items, h => by
      rw [Value.hasDistinctKeys] at h
      rw [ofValue, toValue?, if_pos rfl, toValues?_ofValues items h, Option.map_some]
  | .object members, h => by
      rw [Value.hasDistinctKeys, Bool.and_eq_true, decide_eq_true_iff] at h
      rw [ofValue, toValue?, if_pos rfl, toMembers?_ofMembers members [] h.2 (by simpa using h.1), Option.map_some,
        List.nil_append]

theorem toValues?_ofValues : ∀ (items : List Value), Value.allHaveDistinctKeys items = true →
    toValues? (ofValues items) = some items
  | [], _ => rfl
  | value :: rest, h => by
      rw [Value.allHaveDistinctKeys, Bool.and_eq_true] at h
      rw [ofValues, toValues?, toValue?_ofValue value h.1, toValues?_ofValues rest h.2]

theorem toMembers?_ofMembers : ∀ (members before : List (String × Value)),
    Value.membersHaveDistinctKeys members = true → ((before ++ members).map (·.1)).Nodup →
      toMembers? before (ofMembers members) = some (before ++ members)
  | [], before, _, _ => by rw [ofMembers, toMembers?, List.append_nil]
  | (key, value) :: rest, before, h, hnodup => by
      rw [Value.membersHaveDistinctKeys, Bool.and_eq_true] at h
      have hnew : key ∉ before.map (·.1) := by
        rw [List.map_append, List.map_cons] at hnodup
        exact fun hmem => (List.nodup_append.1 hnodup).2.2 _ hmem _ List.mem_cons_self rfl
      have happend : before ++ (key, value) :: rest = (before ++ [(key, value)]) ++ rest := by
        rw [List.append_assoc, List.singleton_append]
      rw [happend] at hnodup ⊢
      rw [ofMembers, toMembers?, toValue?_ofValue value h.1]
      dsimp only
      rw [setMember_of_not_mem hnew, toMembers?_ofMembers rest _ h.2 hnodup]

end

/-- A text that holds a value holds a document that stands for it. -/
theorem ofText_of_parse? {text : String} {value : Value} (h : parse? text = some value) :
    ∃ doc, ofText text = (doc, true) ∧ toValue? doc = some value := by
  rw [parse?] at h
  split at h
  · next doc htext =>
      split at h
      · exact ⟨doc, htext, h⟩
      · cases h
  · cases h

/-! ### Values that are written out -/

theorem member?_ofMembers {values : List (String × Value)} {key : String} :
    member? key (ofMembers values) = (Json.member? values key).map ofValue := by
  induction values with
  | nil => rfl
  | cons value rest ih =>
      obtain ⟨name, held⟩ := value
      rw [ofMembers, member?, ih, member?_cons]
      by_cases hname : name = key
      · rw [if_pos hname, if_pos (beq_iff_eq.2 hname), Option.map_some]
      · rw [if_neg hname, if_neg (by rwa [beq_iff_eq])]

theorem ofValue_ne_null {value : Value} (h : value ≠ .null) : ofValue value ≠ .null := by
  cases value <;> simp_all [ofValue]

theorem ofValues_eq_map (values : List Value) : ofValues values = values.map ofValue := by
  induction values with
  | nil => rfl
  | cons value rest ih => rw [ofValues, ih, List.map_cons]

theorem ofMembers_eq_map (members : List (String × Value)) :
    ofMembers members = members.map fun member => (.text (some member.1), ofValue member.2) := by
  induction members with
  | nil => rfl
  | cons member rest ih => rw [ofMembers, ih, List.map_cons]

theorem keys_ofMembers (members : List (String × Value)) : keys (ofMembers members) = members.map (·.1) := by
  induction members with
  | nil => rfl
  | cons member rest ih => rw [ofMembers, keys_cons, ih, List.map_cons]

end Document

end DomainModel.Json
