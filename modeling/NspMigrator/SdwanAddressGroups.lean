import Mathlib
import NspMigrator.PyDict
import NspMigrator.PyExcept
import NspMigrator.SdwanModels

/-!
# Leaves of address groups

One address object, or the members of a group with their groups opened in
turn, down to three levels. Links go from a member to its groups; the
resolver inverts them once.
-/

namespace NspMigrator.SdwanAddressGroups

open PyDict SdwanModels

/-- Groups inside groups are opened down to this level. -/
def maxAddrGroupNestingLevel : ℕ := 3

/-- The loaded objects by number, and the members of every group. -/
structure SDWANAddressGroupLeavesResolver where
  /-- The objects by number. -/
  objectsById : Dict ℤ SdwanAddrObject
  /-- The members of every group, by its number. -/
  childrenByParent : Dict ℤ (List SdwanAddrObject)

/-- Index the loaded objects. -/
def SDWANAddressGroupLeavesResolver.ofObjects (addressObjects : List SdwanAddrObject) :
    SDWANAddressGroupLeavesResolver where
  objectsById := Dict.ofList (addressObjects.map fun object => (object.id,object))
  childrenByParent := groupPairs
    (addressObjects.flatMap fun object => object.parents.map fun parent => (parent,object))

/-- The text of an optional number. -/
def optionalIntText : Option ℤ → String
  | none => "None"
  | some n => toString n

namespace SDWANAddressGroupLeavesResolver

/-- The number under which a group's members name it: its group number unless
that is absent or zero. -/
def groupId (object : SdwanAddrObject) : ℤ :=
  match object.addrGroup with
  | none => object.id
  | some n => if n=0 then object.id else n

/-- Leaves of an object, with the levels that may still be opened. -/
def resolveLeavesAt (resolver : SDWANAddressGroupLeavesResolver) :
    ℕ → ℤ → Except String (List SdwanAddrObject)
  | remaining,addressObjectId =>
    match resolver.objectsById.get? addressObjectId with
    | none => .error ("Unknown address object id: "++toString addressObjectId)
    | some object =>
      if object.type≠.addrGroup then .ok [object]
      else match remaining with
        | 0 => .error ("Address group nesting level exceeded: group object id="++
            toString object.id++", group value="++optionalIntText object.addrGroup++
            ", level="++toString (maxAddrGroupNestingLevel+1)++", max_level="++
            toString maxAddrGroupNestingLevel)
        | remaining+1 =>
          match (resolver.childrenByParent.get? (groupId object)).getD [] with
          | [] => .error ("Address group "++toString (groupId object)++
              " has no loaded children")
          | child::children => do
            let leaves ← ((child::children).filter fun c => decide (c.id≠object.id)).mapM
              fun c => resolveLeavesAt resolver remaining c.id
            if leaves.flatten=[] then
              .error ("Address group "++toString object.id++" has no leaf children")
            else .ok leaves.flatten

/-- Leaves of one address object or group. -/
def resolveLeaves (resolver : SDWANAddressGroupLeavesResolver) (addressObjectId : ℤ) :
    Except String (List SdwanAddrObject) :=
  resolver.resolveLeavesAt maxAddrGroupNestingLevel addressObjectId

/-- What is resolved is a loaded object, or the members of a group one level lower. -/
theorem resolveLeavesAt_eq_ok {resolver : SDWANAddressGroupLeavesResolver} {remaining : ℕ}
    {addressObjectId : ℤ} {leaves : List SdwanAddrObject}
    (h : resolver.resolveLeavesAt remaining addressObjectId=.ok leaves) :
    ∃ object,resolver.objectsById.get? addressObjectId=some object ∧
      (object.type≠.addrGroup ∧ leaves=[object] ∨
        object.type=.addrGroup ∧ ∃ lower lists,remaining=lower+1 ∧
          (((resolver.childrenByParent.get? (groupId object)).getD []).filter
            fun child => decide (child.id≠object.id)).mapM
              (fun child => resolver.resolveLeavesAt lower child.id)=.ok lists ∧
          leaves=lists.flatten) := by
  unfold resolveLeavesAt at h
  cases hget : resolver.objectsById.get? addressObjectId with
  | none =>
    rw [hget] at h
    cases h
  | some object =>
    rw [hget] at h
    dsimp only at h
    refine ⟨object,rfl,?_⟩
    by_cases htype : object.type=.addrGroup
    · rw [if_neg (not_not.mpr htype)] at h
      refine Or.inr ⟨htype,?_⟩
      cases remaining with
      | zero => cases h
      | succ lower =>
        dsimp only at h
        cases hchildren : (resolver.childrenByParent.get? (groupId object)).getD [] with
        | nil =>
          rw [hchildren] at h
          cases h
        | cons first rest =>
          rw [hchildren] at h
          obtain ⟨lists,hlists,hleaves⟩ := PyExcept.bind_eq_ok.mp h
          by_cases hempty : lists.flatten=[]
          · rw [if_pos hempty] at hleaves
            cases hleaves
          · rw [if_neg hempty] at hleaves
            exact ⟨lower,lists,rfl,hlists,(Except.ok.inj hleaves).symm⟩
    · rw [if_pos htype] at h
      exact Or.inl ⟨htype,(Except.ok.inj h).symm⟩

end SDWANAddressGroupLeavesResolver

end NspMigrator.SdwanAddressGroups
