import Mathlib.Data.String.Basic
import Mathlib.Data.List.Induction
import MediaNode.Json.Basic

/-!
# The members of an object

Members are built by insertion, and what an object is asked for is looked up. Looking up
sees through insertion (`lookup_insertMember`), whatever the order, so that an object that
is built from members answers without its order being known. The order itself matters
where two objects have to be equal: insertion keeps it, members that have it are left as
they are, and members with different keys are only permuted.

The predicates over values are stated for lists of items and of members in their own
recursion. Here they are said by membership, which is how they are used.
-/
namespace MediaNode.Json

variable {key : String} {value : Json} {members : List (String × Json)}

/-- After an insertion the key has its new value, and every other key what it had. -/
@[simp]
theorem lookup_insertMember (asked key : String) (value : Json) (members : List (String × Json)) :
    lookup asked (insertMember key value members) =
      if key = asked then some value else lookup asked members := by
  induction members with
  | nil => rfl
  | cons member rest inductionHypothesis =>
    obtain ⟨k, v⟩ := member
    unfold insertMember
    split
    · rfl
    · split
      · subst key
        by_cases same : k = asked <;> simp only [lookup, same, if_true, if_false]
      · rename_i different
        by_cases same : k = asked
        · subst asked
          simp only [lookup, if_true, if_neg different]
        · simp only [lookup, if_neg same, inductionHypothesis]

/-- What is looked up is there. -/
theorem mem_of_lookup (found : lookup key members = some value) : (key, value) ∈ members := by
  induction members with
  | nil => cases found
  | cons member rest inductionHypothesis =>
    obtain ⟨k, v⟩ := member
    rw [lookup] at found
    split at found
    · subst k
      cases found
      exact List.mem_cons_self
    · exact List.mem_cons_of_mem _ (inductionHypothesis found)

/-- Where no key is there twice, every member can be looked up. -/
theorem lookup_eq_some_iff (distinct : (members.map Prod.fst).Nodup) :
    lookup key members = some value ↔ (key, value) ∈ members := by
  refine ⟨mem_of_lookup, fun present => ?_⟩
  induction members with
  | nil => cases present
  | cons member rest inductionHypothesis =>
    obtain ⟨k, v⟩ := member
    rw [List.map_cons, List.nodup_cons] at distinct
    rw [lookup]
    rcases List.mem_cons.1 present with same | later
    · cases same
      exact if_pos rfl
    · have different : k ≠ key := by
        intro same
        exact distinct.1 (List.mem_map.2 ⟨_, later, same.symm⟩)
      rw [if_neg different]
      exact inductionHypothesis distinct.2 later

/-- Members are built one insertion after the other. -/
@[simp]
theorem orderMembers_concat (members : List (String × Json)) (key : String) (value : Json) :
    orderMembers (members ++ [(key, value)]) = insertMember key value (orderMembers members) := by
  simp only [orderMembers, List.foldl_append, List.foldl_cons, List.foldl_nil]

/-- A member that is there after an insertion is the new one or was there before. -/
theorem mem_insertMember {member : String × Json}
    (present : member ∈ insertMember key value members) :
    member = (key, value) ∨ member ∈ members := by
  induction members with
  | nil => exact .inl (List.mem_singleton.1 present)
  | cons first rest inductionHypothesis =>
    obtain ⟨k, v⟩ := first
    unfold insertMember at present
    split at present
    · exact List.mem_cons.1 present
    · split at present
      · exact (List.mem_cons.1 present).imp_right (List.mem_cons_of_mem _)
      · rcases List.mem_cons.1 present with same | later
        · exact .inr (same ▸ List.mem_cons_self)
        · exact (inductionHypothesis later).imp_right (List.mem_cons_of_mem _)

/-- Building adds no members. -/
theorem mem_of_mem_orderMembers {member : String × Json}
    (present : member ∈ orderMembers members) : member ∈ members := by
  induction members using List.reverseRecOn with
  | nil => exact present
  | append_singleton earlier last inductionHypothesis =>
    rw [orderMembers_concat] at present
    rcases mem_insertMember present with same | before
    · exact List.mem_append_right _ (List.mem_singleton.2 same)
    · exact List.mem_append_left _ (inductionHypothesis before)

/-- Insertion keeps the order. -/
theorem orderedMembers_insertMember (key : String) (value : Json)
    (ordered : OrderedMembers members) : OrderedMembers (insertMember key value members) := by
  induction members with
  | nil => exact List.pairwise_singleton _ _
  | cons first rest inductionHypothesis =>
    obtain ⟨k, v⟩ := first
    obtain ⟨least, orderedRest⟩ := List.pairwise_cons.1 ordered
    unfold insertMember
    split
    · rename_i smaller
      refine List.pairwise_cons.2 ⟨fun other present => ?_, ordered⟩
      rcases List.mem_cons.1 present with rfl | later
      · exact smaller
      · exact String.lt_trans smaller (least other later)
    · split
      · subst key
        exact ordered
      · rename_i notSmaller different
        have larger : k < key := lt_of_le_of_ne (not_lt.1 notSmaller) (Ne.symm different)
        refine List.pairwise_cons.2 ⟨fun other present => ?_, inductionHypothesis orderedRest⟩
        obtain ⟨member, inserted, rfl⟩ := List.mem_map.1 present
        rcases mem_insertMember inserted with rfl | before
        · exact larger
        · exact least member.1 (List.mem_map_of_mem before)

/-- Members that are built are in order. -/
theorem orderedMembers_orderMembers (members : List (String × Json)) :
    OrderedMembers (orderMembers members) := by
  induction members using List.reverseRecOn with
  | nil => exact List.Pairwise.nil
  | append_singleton earlier last inductionHypothesis =>
    rw [orderMembers_concat]
    exact orderedMembers_insertMember _ _ inductionHypothesis

/-- Members in order have different keys. -/
theorem OrderedMembers.distinct (ordered : OrderedMembers members) :
    (members.map Prod.fst).Nodup :=
  List.Pairwise.imp (fun smaller => ne_of_lt smaller) ordered

/-- A key behind all others is inserted at the end. -/
theorem insertMember_of_last (last : ∀ member ∈ members, member.1 < key) :
    insertMember key value members = members ++ [(key, value)] := by
  induction members with
  | nil => rfl
  | cons first rest inductionHypothesis =>
    obtain ⟨k, v⟩ := first
    have before : k < key := last _ List.mem_cons_self
    rw [insertMember, if_neg (lt_asymm before), if_neg (ne_of_gt before),
      inductionHypothesis fun member present => last _ (List.mem_cons_of_mem _ present)]
    rfl

/-- Members in order are built as they are. -/
theorem orderMembers_of_ordered (ordered : OrderedMembers members) :
    orderMembers members = members := by
  induction members using List.reverseRecOn with
  | nil => rfl
  | append_singleton earlier last inductionHypothesis =>
    rw [OrderedMembers, List.map_append, List.pairwise_append] at ordered
    obtain ⟨orderedEarlier, -, before⟩ := ordered
    rw [orderMembers_concat, inductionHypothesis orderedEarlier]
    exact insertMember_of_last fun member present =>
      before _ (List.mem_map_of_mem present) _ List.mem_cons_self

/-- A new key is put somewhere among the others. -/
theorem insertMember_perm (fresh : key ∉ members.map Prod.fst) :
    (insertMember key value members).Perm ((key, value) :: members) := by
  induction members with
  | nil => exact .refl _
  | cons first rest inductionHypothesis =>
    obtain ⟨k, v⟩ := first
    rw [List.map_cons, List.mem_cons, not_or] at fresh
    unfold insertMember
    split
    · exact .refl _
    · rw [if_neg fresh.1]
      exact ((inductionHypothesis fresh.2).cons _).trans (.swap _ _ _)

/-- Members with different keys are only put into their order. -/
theorem orderMembers_perm (distinct : (members.map Prod.fst).Nodup) :
    (orderMembers members).Perm members := by
  induction members using List.reverseRecOn with
  | nil => exact .refl _
  | append_singleton earlier last inductionHypothesis =>
    obtain ⟨key, value⟩ := last
    rw [List.map_append, List.nodup_append] at distinct
    obtain ⟨distinctEarlier, -, apart⟩ := distinct
    have built := inductionHypothesis distinctEarlier
    have fresh : key ∉ (orderMembers earlier).map Prod.fst := by
      intro present
      exact apart _ ((built.map Prod.fst).mem_iff.1 present) _ List.mem_cons_self rfl
    rw [orderMembers_concat]
    exact (insertMember_perm fresh).trans ((built.cons _).trans
      (List.perm_append_singleton _ _).symm)

/-- So what they are asked for is what they were before. -/
theorem lookup_orderMembers (distinct : (members.map Prod.fst).Nodup) :
    lookup key (orderMembers members) = lookup key members := by
  refine Option.ext fun value => ?_
  rw [lookup_eq_some_iff (orderedMembers_orderMembers members).distinct,
    lookup_eq_some_iff distinct, (orderMembers_perm distinct).mem_iff]

/-- Members are asked one list after the other. -/
@[simp]
theorem lookup_append (key : String) (before behind : List (String × Json)) :
    lookup key (before ++ behind) = (lookup key before).or (lookup key behind) := by
  induction before with
  | nil => rfl
  | cons member rest inductionHypothesis =>
    obtain ⟨k, v⟩ := member
    rw [List.cons_append, lookup, lookup]
    split
    · rfl
    · exact inductionHypothesis

theorem orderedItems_iff {items : List Json} : OrderedItems items ↔ ∀ item ∈ items, item.Ordered := by
  induction items with
  | nil => simp [OrderedItems]
  | cons first rest inductionHypothesis => simp [OrderedItems, inductionHypothesis]

theorem orderedValues_iff : OrderedValues members ↔ ∀ member ∈ members, member.2.Ordered := by
  induction members with
  | nil => simp [OrderedValues]
  | cons first rest inductionHypothesis => simp [OrderedValues, inductionHypothesis]

theorem integralValues_iff : IntegralValues members ↔ ∀ member ∈ members, member.2.Integral := by
  induction members with
  | nil => simp [IntegralValues]
  | cons first rest inductionHypothesis => simp [IntegralValues, inductionHypothesis]

theorem depthItems_le_iff {items : List Json} {n : Nat} :
    depthItems items ≤ n ↔ ∀ item ∈ items, item.depth ≤ n := by
  induction items with
  | nil => simp [depthItems]
  | cons first rest inductionHypothesis => simp [depthItems, inductionHypothesis]

theorem depthValues_le_iff {n : Nat} :
    depthValues members ≤ n ↔ ∀ member ∈ members, member.2.depth ≤ n := by
  induction members with
  | nil => simp [depthValues]
  | cons first rest inductionHypothesis => simp [depthValues, inductionHypothesis]

/-- An object that is built has its members in order, if their values have theirs. -/
theorem ordered_ofMembers (ordered : ∀ member ∈ members, member.2.Ordered) :
    (ofMembers members).Ordered :=
  ⟨orderedMembers_orderMembers members, orderedValues_iff.2 fun member present =>
    ordered member (mem_of_mem_orderMembers present)⟩

/-- An object that is built is integral, if its values are. -/
theorem integral_ofMembers (integral : ∀ member ∈ members, member.2.Integral) :
    (ofMembers members).Integral :=
  integralValues_iff.2 fun member present => integral member (mem_of_mem_orderMembers present)

/-- An object that is built has one level more than its values. -/
theorem depth_ofMembers_le {n : Nat} (shallow : ∀ member ∈ members, member.2.depth ≤ n) :
    (ofMembers members).depth ≤ n + 1 :=
  Nat.succ_le_succ (depthValues_le_iff.2 fun member present =>
    shallow member (mem_of_mem_orderMembers present))

end MediaNode.Json
