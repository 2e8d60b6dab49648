import Mathlib
import NspMigrator.TtlCache

/-!
# The runtime cache

Modules share one store that is split by namespaces, each a bounded cache of
its own. Reading may extend the life of an entry. As long as no namespace is
asked to hold more keys than it can, the store is an unbounded map whose
entries expire when they have not been used for their time.
-/

namespace NspMigrator.RuntimeCacheStore

open PyDict TtlCache

/-- When a method is called: the timer of the caches and the wall clock. -/
structure Clock where
  /-- The time of the caches, in seconds. -/
  timer : ℚ
  /-- The wall clock, in seconds. -/
  utcNow : ℚ

/-- What is known of the life of an entry. -/
structure CacheEntryMeta where
  /-- When it was first put. -/
  createdAt : ℚ
  /-- When it was last put. -/
  lastTouchedAt : ℚ
  /-- When it will be dropped. -/
  expiresAt : ℚ
  /-- How long it is kept. -/
  ttlSeconds : ℕ
  deriving DecidableEq

/-- A user value with what is known of its life. -/
structure CacheEntry (α : Type) where
  /-- What is kept. -/
  data : α
  /-- What is known of its life. -/
  entryMeta : CacheEntryMeta
  deriving DecidableEq

variable {κ α : Type} [DecidableEq κ] {maxEntries ttlSeconds : ℕ}

/-- One cache for each namespace that was asked for. -/
structure InMemoryTTLStore (cache : TTLCache κ (CacheEntry α) maxEntries ttlSeconds) where
  /-- The cache of every namespace. -/
  caches : Dict String cache.State

variable {cache : TTLCache κ (CacheEntry α) maxEntries ttlSeconds}

/-- An entry touched now, created when the previous one was. -/
def buildEntry (ttlSeconds : ℕ) (clock : Clock) (data : α) (previousMeta : Option CacheEntryMeta) :
    CacheEntry α where
  data := data
  entryMeta := {
    createdAt := (previousMeta.map (·.createdAt)).getD clock.utcNow
    lastTouchedAt := clock.utcNow
    expiresAt := clock.utcNow+ttlSeconds
    ttlSeconds := ttlSeconds }

namespace InMemoryTTLStore

/-- A store without namespaces. -/
def create : InMemoryTTLStore cache := ⟨.empty⟩

/-- The cache of a namespace, without what has expired. -/
def getCache (store : InMemoryTTLStore cache) (clock : Clock) (space : String) : cache.State :=
  cache.expire ((store.caches.get? space).getD cache.new) clock.timer

/-- The store with another cache for a namespace. -/
def withCache (store : InMemoryTTLStore cache) (space : String) (state : cache.State) :
    InMemoryTTLStore cache :=
  ⟨store.caches.insert space state⟩

/-- The data under a key, whose life is extended where that is asked for. -/
def get (store : InMemoryTTLStore cache) (clock : Clock) (space : String) (key : κ)
    (touch : Bool) : Option α × InMemoryTTLStore cache :=
  let (entry,state) := cache.getItem (store.getCache clock space) clock.timer key
  match entry with
  | none => (none,store.withCache space state)
  | some entry =>
    if touch=true then
      (some entry.data,store.withCache space (cache.setItem state clock.timer key
        (buildEntry ttlSeconds clock entry.data (some entry.entryMeta))))
    else (some entry.data,store.withCache space state)

/-- Store data, and start or restart its life. -/
def set (store : InMemoryTTLStore cache) (clock : Clock) (space : String) (key : κ) (value : α) :
    InMemoryTTLStore cache :=
  let (previous,state) := cache.getItem (store.getCache clock space) clock.timer key
  store.withCache space (cache.setItem state clock.timer key
    (buildEntry ttlSeconds clock value (previous.map (·.entryMeta))))

/-- Remove data, if it is there. -/
def delete (store : InMemoryTTLStore cache) (clock : Clock) (space : String) (key : κ) :
    InMemoryTTLStore cache :=
  store.withCache space (cache.popItem (store.getCache clock space) clock.timer key)

/-- Extend the life of an entry, if it is there. -/
def touch (store : InMemoryTTLStore cache) (clock : Clock) (space : String) (key : κ) :
    Bool × InMemoryTTLStore cache :=
  let (entry,state) := cache.getItem (store.getCache clock space) clock.timer key
  match entry with
  | none => (false,store.withCache space state)
  | some entry => (true,store.withCache space (cache.setItem state clock.timer key
      (buildEntry ttlSeconds clock entry.data (some entry.entryMeta))))

/-- What is known of the life of an entry, which is not extended. -/
def getMeta (store : InMemoryTTLStore cache) (clock : Clock) (space : String) (key : κ) :
    Option CacheEntryMeta × InMemoryTTLStore cache :=
  let (entry,state) := cache.getItem (store.getCache clock space) clock.timer key
  (entry.map (·.entryMeta),store.withCache space state)

/-- The keys of a namespace, none of which is touched. -/
def keys (store : InMemoryTTLStore cache) (clock : Clock) (space : String) :
    List κ × InMemoryTTLStore cache :=
  (cache.keys (store.getCache clock space) clock.timer,
    store.withCache space (store.getCache clock space))

/-- What the store has under a key of a namespace at a time. -/
def view (store : InMemoryTTLStore cache) (now : ℚ) (space : String) (key : κ) :
    Option (CacheEntry α) :=
  live (cache.items ((store.caches.get? space).getD cache.new)) now key

variable {store : InMemoryTTLStore cache} {clock : Clock} {later : ℚ} {space other : String}
  {key otherKey : κ}

/-- Another cache for a namespace is seen in that namespace only. -/
theorem view_withCache (state : cache.State) :
    (store.withCache space state).view later other otherKey=
    if other=space then live (cache.items state) later otherKey
    else store.view later other otherKey := by
  unfold view withCache
  rw [Dict.get?_insert]
  by_cases h : other=space
  · rw [if_pos h,if_pos h,Option.getD_some]
  · rw [if_neg h,if_neg h]

/-- Expiry is not seen. -/
theorem live_getCache (h : clock.timer≤later) :
    live (cache.items (store.getCache clock space)) later otherKey=
      store.view later space otherKey := by
  rw [getCache,cache.live_expire _ _ _ _ h,view]

/-- Reading finds what the store has. -/
theorem getItem_getCache : (cache.getItem (store.getCache clock space) clock.timer key).1=
    store.view clock.timer space key := by
  rw [cache.getItem_value,live_getCache le_rfl]

/-- Reading is not seen. -/
theorem view_read (h : clock.timer≤later) :
    (store.withCache space (cache.getItem (store.getCache clock space) clock.timer key).2).view
      later other otherKey=store.view later other otherKey := by
  rw [view_withCache]
  by_cases hother : other=space
  · rw [if_pos hother,cache.live_getItem _ _ _ _ _ h,live_getCache h,hother]
  · rw [if_neg hother]

/-- The state a key is set in: the cache of the namespace after reading the key. -/
def readState (store : InMemoryTTLStore cache) (clock : Clock) (space : String) (key : κ) :
    cache.State :=
  (cache.getItem (store.getCache clock space) clock.timer key).2

theorem live_readState (h : clock.timer≤later) :
    live (cache.items (store.readState clock space key)) later otherKey=
      store.view later space otherKey := by
  rw [readState,cache.live_getItem _ _ _ _ _ h,live_getCache h]

/-- Whether a key can be set without dropping another one. -/
def HasRoom (store : InMemoryTTLStore cache) (now : ℚ) (space : String) (key : κ) : Prop :=
  (store.view now space key).isSome=true ∨ ∃ present : Finset κ,
    (∀ k,(store.view now space k).isSome=true → k∈present) ∧ present.card < maxEntries

/-- What is seen after an entry was set: the entry for its time, and everything
else as before, where there was room for it. -/
theorem view_write (h : clock.timer≤later) (entry : CacheEntry α)
    (hroom : store.HasRoom clock.timer space key) :
    (store.withCache space (cache.setItem (store.readState clock space key) clock.timer key
      entry)).view later other otherKey=
    if other=space ∧ otherKey=key then
      if later < clock.timer+ttlSeconds then some entry else none
    else store.view later other otherKey := by
  rw [view_withCache]
  by_cases hother : other=space
  · subst hother
    rw [if_pos rfl]
    by_cases hkey : otherKey=key
    · subst hkey
      rw [if_pos ⟨rfl,rfl⟩,cache.live_setItem_self _ _ _ _ _ h]
    · rw [if_neg fun hboth => hkey hboth.2,
        cache.live_setItem_kept _ _ _ _ _ _ hkey h ?_,live_readState h]
      rcases hroom with hpresent|⟨present,hall,hcard⟩
      · left
        rwa [live_readState le_rfl]
      · right
        refine ⟨present,fun k hk => hall k ?_,hcard⟩
        rwa [live_readState le_rfl] at hk
  · rw [if_neg hother,if_neg fun hboth => hother hboth.1]

/-- What is seen after an entry was set is the entry, or was there before. -/
theorem view_write_cases (h : clock.timer≤later) {entry found : CacheEntry α}
    (hfound : (store.withCache space (cache.setItem (store.readState clock space key) clock.timer
      key entry)).view later other otherKey=some found) :
    (other=space ∧ otherKey=key ∧ found=entry) ∨
      (¬(other=space ∧ otherKey=key) ∧ store.view later other otherKey=some found) := by
  rw [view_withCache] at hfound
  by_cases hother : other=space
  · subst hother
    rw [if_pos rfl] at hfound
    by_cases hkey : otherKey=key
    · subst hkey
      rw [cache.live_setItem_self _ _ _ _ _ h] at hfound
      split at hfound
      · exact Or.inl ⟨rfl,rfl,(Option.some.inj hfound).symm⟩
      · cases hfound
    · refine Or.inr ⟨fun hboth => hkey hboth.2,?_⟩
      rcases cache.live_setItem_other (store.readState clock other key) clock.timer key entry
        otherKey hkey with hsame|hdropped
      · rw [hsame later h,live_readState h] at hfound
        exact hfound
      · rw [hdropped later h] at hfound
        cases hfound
  · rw [if_neg hother] at hfound
    exact Or.inr ⟨fun hboth => hother hboth.1,hfound⟩

end InMemoryTTLStore

section Ideal

variable {κ α : Type} [DecidableEq κ]

/-- A store without a bound: what is stored in each namespace, and until when. -/
abbrev UnboundedStore (κ α : Type) := String → Items κ (CacheEntry α)

/-- A use of the store. -/
inductive StoreOp (κ α : Type) where
  | get (space : String) (key : κ) (touch : Bool)
  | set (space : String) (key : κ) (value : α)
  | delete (space : String) (key : κ)
  | touch (space : String) (key : κ)
  | getMeta (space : String) (key : κ)

/-- What a use of the store answers. -/
inductive StoreAnswer (α : Type) where
  | data (value : Option α)
  | done
  | touched (found : Bool)
  | metadata (entryMeta : Option CacheEntryMeta)
  deriving DecidableEq

/-- Write an entry, for its time. -/
def UnboundedStore.write (ideal : UnboundedStore κ α) (ttlSeconds : ℕ) (clock : Clock)
    (space : String) (key : κ) (entry : CacheEntry α) : UnboundedStore κ α :=
  Function.update ideal space (Function.update (ideal space) key
    (some (entry,clock.timer+ttlSeconds)))

/-- A use of the unbounded store. -/
def UnboundedStore.step (ideal : UnboundedStore κ α) (ttlSeconds : ℕ) (clock : Clock) :
    StoreOp κ α → StoreAnswer α × UnboundedStore κ α
  | .get space key touch =>
    match live (ideal space) clock.timer key with
    | none => (.data none,ideal)
    | some entry => (.data (some entry.data),
        if touch=true then ideal.write ttlSeconds clock space key
          (buildEntry ttlSeconds clock entry.data (some entry.entryMeta)) else ideal)
  | .set space key value => (.done,ideal.write ttlSeconds clock space key
      (buildEntry ttlSeconds clock value
        ((live (ideal space) clock.timer key).map (·.entryMeta))))
  | .delete space key =>
    (.done,Function.update ideal space (Function.update (ideal space) key none))
  | .touch space key =>
    match live (ideal space) clock.timer key with
    | none => (.touched false,ideal)
    | some entry => (.touched true,ideal.write ttlSeconds clock space key
        (buildEntry ttlSeconds clock entry.data (some entry.entryMeta)))
  | .getMeta space key =>
    (.metadata ((live (ideal space) clock.timer key).map (·.entryMeta)),ideal)

/-- Uses of the unbounded store one after another. -/
def UnboundedStore.run (ttlSeconds : ℕ) : UnboundedStore κ α → List (Clock × StoreOp κ α) →
    List (StoreAnswer α) × UnboundedStore κ α
  | ideal,[] => ([],ideal)
  | ideal,(clock,op)::ops =>
    let outcome := ideal.step ttlSeconds clock op
    let rest := UnboundedStore.run ttlSeconds outcome.2 ops
    (outcome.1::rest.1,rest.2)

variable {maxEntries ttlSeconds : ℕ} {cache : TTLCache κ (CacheEntry α) maxEntries ttlSeconds}

namespace InMemoryTTLStore

/-- A use of the store. -/
def step (store : InMemoryTTLStore cache) (clock : Clock) :
    StoreOp κ α → StoreAnswer α × InMemoryTTLStore cache
  | .get space key touch => let (value,next) := store.get clock space key touch; (.data value,next)
  | .set space key value => (.done,store.set clock space key value)
  | .delete space key => (.done,store.delete clock space key)
  | .touch space key => let (found,next) := store.touch clock space key; (.touched found,next)
  | .getMeta space key => let (found,next) := store.getMeta clock space key; (.metadata found,next)

/-- Uses of the store one after another. -/
def run : InMemoryTTLStore cache → List (Clock × StoreOp κ α) →
    List (StoreAnswer α) × InMemoryTTLStore cache
  | store,[] => ([],store)
  | store,(clock,op)::ops =>
    let outcome := store.step clock op
    let rest := run outcome.2 ops
    (outcome.1::rest.1,rest.2)

end InMemoryTTLStore

/-- The key an operation may add to a namespace. -/
def StoreOp.sets (space : String) : StoreOp κ α → Finset κ
  | .set other key _ => if other=space then {key} else ∅
  | _ => ∅

/-- The keys operations may add to a namespace. -/
def keysSet (space : String) : List (Clock × StoreOp κ α) → Finset κ
  | [] => ∅
  | (_,op)::ops => op.sets space∪keysSet space ops

/-- Each use comes no earlier than the one before it. -/
def InOrder (now : ℚ) : List (Clock × StoreOp κ α) → Prop
  | [] => True
  | (clock,_)::ops => now≤clock.timer ∧ InOrder clock.timer ops

/-- The store shows what the unbounded one holds, from some time on, and holds
no other keys than those used. -/
structure Agrees (store : InMemoryTTLStore cache) (ideal : UnboundedStore κ α) (now : ℚ)
    (used : String → Finset κ) : Prop where
  /-- Both show the same, now and later. -/
  view : ∀ later space key,now≤later → store.view later space key=live (ideal space) later key
  /-- Only keys that were used are in the store. -/
  used : ∀ space key,(store.view now space key).isSome=true → key∈used space

variable {store : InMemoryTTLStore cache} {ideal : UnboundedStore κ α} {now : ℚ} {clock : Clock}
  {used : String → Finset κ} {space : String} {key : κ}

/-- Time passes. -/
theorem Agrees.later (h : Agrees store ideal now used) {later : ℚ} (hlater : now≤later) :
    Agrees store ideal later used := by
  refine ⟨fun after space key hafter => h.view after space key (hlater.trans hafter),?_⟩
  intro space key hkey
  obtain ⟨entry,hentry⟩ := Option.isSome_iff_exists.mp hkey
  refine h.used space key ?_
  rw [InMemoryTTLStore.view,live_of_later hlater hentry]
  rfl

/-- Reading is not seen. -/
theorem Agrees.read (h : Agrees store ideal clock.timer used) (space : String) (key : κ) :
    Agrees (store.withCache space (store.readState clock space key)) ideal clock.timer used := by
  have hview : ∀ later other k,clock.timer≤later →
      (store.withCache space (store.readState clock space key)).view later other k=
        store.view later other k := fun later other k hl => InMemoryTTLStore.view_read hl
  refine ⟨fun later other k hlater => ?_,fun other k hk => ?_⟩
  · rw [hview later other k hlater]
    exact h.view later other k hlater
  · rw [hview _ other k le_rfl] at hk
    exact h.used other k hk

/-- Writing an entry there is room for is writing it in the unbounded store. -/
theorem Agrees.write (h : Agrees store ideal clock.timer used)
    (hroom : store.HasRoom clock.timer space key) (hused : key∈used space)
    (entry : CacheEntry α) :
    Agrees (store.withCache space (cache.setItem (store.readState clock space key) clock.timer key
      entry)) (ideal.write ttlSeconds clock space key entry) clock.timer used := by
  refine ⟨fun later other k hlater => ?_,fun other k hk => ?_⟩
  · rw [InMemoryTTLStore.view_write hlater entry hroom,UnboundedStore.write]
    by_cases hother : other=space
    · subst hother
      rw [Function.update_self]
      by_cases hkey : k=key
      · subst hkey
        rw [if_pos ⟨rfl,rfl⟩,live_update_self]
      · rw [if_neg fun hboth => hkey hboth.2,live_update_of_ne hkey]
        exact h.view later other k hlater
    · rw [if_neg fun hboth => hother hboth.1,Function.update_of_ne hother]
      exact h.view later other k hlater
  · rw [InMemoryTTLStore.view_write le_rfl entry hroom] at hk
    by_cases hboth : other=space ∧ k=key
    · rw [hboth.1,hboth.2]
      exact hused
    · rw [if_neg hboth] at hk
      exact h.used other k hk

/-- Removing a key is removing it from the unbounded store. -/
theorem Agrees.delete (h : Agrees store ideal clock.timer used) (space : String) (key : κ) :
    Agrees (store.delete clock space key)
      (Function.update ideal space (Function.update (ideal space) key none)) clock.timer used := by
  have hview : ∀ later other k,clock.timer≤later →
      (store.delete clock space key).view later other k=
      if other=space ∧ k=key then none else store.view later other k := by
    intro later other k hlater
    rw [InMemoryTTLStore.delete,InMemoryTTLStore.view_withCache]
    by_cases hother : other=space
    · subst hother
      rw [if_pos rfl,cache.live_popItem _ _ _ _ _ hlater,InMemoryTTLStore.live_getCache hlater]
      simp
    · rw [if_neg hother,if_neg fun hboth => hother hboth.1]
  refine ⟨fun later other k hlater => ?_,fun other k hk => ?_⟩
  · rw [hview later other k hlater]
    by_cases hother : other=space
    · subst hother
      rw [Function.update_self]
      by_cases hkey : k=key
      · subst hkey
        rw [if_pos ⟨rfl,rfl⟩,live_update_none]
      · rw [if_neg fun hboth => hkey hboth.2,live_update_of_ne hkey]
        exact h.view later other k hlater
    · rw [if_neg fun hboth => hother hboth.1,Function.update_of_ne hother]
      exact h.view later other k hlater
  · rw [hview _ other k le_rfl] at hk
    by_cases hboth : other=space ∧ k=key
    · rw [if_pos hboth] at hk
      cases hk
    · rw [if_neg hboth] at hk
      exact h.used other k hk

/-- An entry that is there can be written again. -/
theorem Agrees.rewrite (h : Agrees store ideal clock.timer used) {old : CacheEntry α}
    (hold : live (ideal space) clock.timer key=some old) (entry : CacheEntry α) :
    Agrees (store.withCache space (cache.setItem (store.readState clock space key) clock.timer key
      entry)) (ideal.write ttlSeconds clock space key entry) clock.timer used := by
  have hpresent : (store.view clock.timer space key).isSome=true := by
    rw [h.view _ space key le_rfl,hold]
    rfl
  exact h.write (Or.inl hpresent) (h.used space key hpresent) entry

/-- One use of the store is the same use of the unbounded one, where the keys
used so far and the key set are not too many. -/
theorem Agrees.step (h : Agrees store ideal clock.timer used) (op : StoreOp κ α)
    (hcard : ∀ space,(used space∪op.sets space).card ≤ maxEntries) :
    (store.step clock op).1=(ideal.step ttlSeconds clock op).1 ∧
      Agrees (store.step clock op).2 (ideal.step ttlSeconds clock op).2 clock.timer
        fun space => used space∪op.sets space := by
  have hsame : ∀ {next : InMemoryTTLStore cache} {ideal' : UnboundedStore κ α},
      Agrees next ideal' clock.timer used → Agrees next ideal' clock.timer
        fun space => used space∪op.sets space :=
    fun hagrees => ⟨hagrees.view,fun space key hkey =>
      Finset.mem_union_left _ (hagrees.used space key hkey)⟩
  have hfound : ∀ space key,(cache.getItem (store.getCache clock space) clock.timer key).1=
      live (ideal space) clock.timer key := by
    intro space key
    rw [InMemoryTTLStore.getItem_getCache]
    exact h.view _ space key le_rfl
  cases op with
  | get space key touch =>
    simp only [InMemoryTTLStore.step,InMemoryTTLStore.get,UnboundedStore.step,hfound]
    cases hlive : live (ideal space) clock.timer key with
    | none => exact ⟨rfl,hsame (h.read space key)⟩
    | some entry =>
      cases touch with
      | false => exact ⟨rfl,hsame (h.read space key)⟩
      | true => exact ⟨rfl,hsame (h.rewrite hlive _)⟩
  | set space key value =>
    simp only [InMemoryTTLStore.step,InMemoryTTLStore.set,UnboundedStore.step,hfound]
    refine ⟨trivial,Agrees.write ⟨h.view,fun other k hk => ?_⟩ ?_ ?_ _⟩
    · exact Finset.mem_union_left _ (h.used other k hk)
    · by_cases hkey : key∈used space
      · by_cases hpresent : (store.view clock.timer space key).isSome=true
        · exact Or.inl hpresent
        · refine Or.inr ⟨(used space).erase key,fun k hk => ?_,?_⟩
          · refine Finset.mem_erase.mpr ⟨fun heq => hpresent (heq▸hk),h.used space k hk⟩
          · have hle := hcard space
            have hlt := Finset.card_erase_lt_of_mem hkey
            have hsub : (used space).card≤
                (used space∪StoreOp.sets space (.set space key value)).card :=
              Finset.card_le_card Finset.subset_union_left
            omega
      · refine Or.inr ⟨used space,fun k hk => h.used space k hk,?_⟩
        have hle := hcard space
        have hsets : (StoreOp.set space key value).sets space={key} := if_pos rfl
        rw [hsets,Finset.union_comm,←Finset.insert_eq,
          Finset.card_insert_of_notMem hkey] at hle
        omega
    · simp [StoreOp.sets]
  | delete space key => exact ⟨rfl,hsame (h.delete space key)⟩
  | touch space key =>
    simp only [InMemoryTTLStore.step,InMemoryTTLStore.touch,UnboundedStore.step,hfound]
    cases hlive : live (ideal space) clock.timer key with
    | none => exact ⟨rfl,hsame (h.read space key)⟩
    | some entry => exact ⟨rfl,hsame (h.rewrite hlive _)⟩
  | getMeta space key =>
    simp only [InMemoryTTLStore.step,InMemoryTTLStore.getMeta,UnboundedStore.step,hfound]
    exact ⟨trivial,hsame (h.read space key)⟩

/-- As long as no namespace is asked to hold too many keys, the store answers
as the unbounded one does, and lists the keys that one holds. -/
theorem run_eq_unbounded (ops : List (Clock × StoreOp κ α)) (horder : InOrder now ops)
    (hcard : ∀ space,(keysSet space ops).card ≤ maxEntries) :
    ((.create : InMemoryTTLStore cache).run ops).1=
      (UnboundedStore.run ttlSeconds (fun _ _ => none) ops).1 ∧
    ∀ last : Clock,(∀ entry∈ops,entry.1.timer≤last.timer) → now≤last.timer → ∀ space key,
      (key∈(((.create : InMemoryTTLStore cache).run ops).2.keys last space).1 ↔
        (live ((UnboundedStore.run ttlSeconds (fun _ _ => none) ops).2 space) last.timer
          key).isSome=true) := by
  have hgen : ∀ (ops : List (Clock × StoreOp κ α)) (store : InMemoryTTLStore cache)
      (ideal : UnboundedStore κ α) (used : String → Finset κ) (now : ℚ),
      Agrees store ideal now used → InOrder now ops →
      (∀ space,(used space∪keysSet space ops).card ≤ maxEntries) →
      (store.run ops).1=(UnboundedStore.run ttlSeconds ideal ops).1 ∧ ∀ last,now≤last →
        (∀ entry∈ops,entry.1.timer≤last) → ∃ used',
          Agrees (store.run ops).2 (UnboundedStore.run ttlSeconds ideal ops).2 last used' := by
    intro ops
    induction ops with
    | nil => exact fun store ideal used now h _ _ => ⟨rfl,fun last hlast _ => ⟨used,h.later hlast⟩⟩
    | cons entry ops ih =>
      intro store ideal used now h horder hcard
      obtain ⟨clock,op⟩ := entry
      obtain ⟨hnow,horder⟩ := horder
      have hone : ∀ space,(used space∪op.sets space).card ≤ maxEntries := by
        intro space
        refine le_trans (Finset.card_le_card ?_) (hcard space)
        exact Finset.union_subset_union_right Finset.subset_union_left
      obtain ⟨hanswer,hnext⟩ := (h.later hnow).step op hone
      have hrest := ih _ _ _ clock.timer hnext horder fun space => by
        rw [Finset.union_assoc]
        exact hcard space
      refine ⟨?_,fun last hlast hall => ?_⟩
      · simp only [InMemoryTTLStore.run,UnboundedStore.run,hanswer,hrest.1]
      · exact hrest.2 last (hall (clock,op) List.mem_cons_self)
          fun other ho => hall other (List.mem_cons_of_mem _ ho)
  have hstart : Agrees (.create : InMemoryTTLStore cache) (fun _ _ => none) now
      fun _ => ∅ := by
    have hview : ∀ later space key,
        (.create : InMemoryTTLStore cache).view later space key=none := by
      intro later space key
      rw [InMemoryTTLStore.view,InMemoryTTLStore.create,Dict.get?_empty,Option.getD_none,live,
        cache.items_new]
      rfl
    refine ⟨fun later space key _ => hview later space key,fun space key hkey => ?_⟩
    rw [hview] at hkey
    cases hkey
  obtain ⟨hanswers,hfinal⟩ := hgen ops _ _ _ now hstart horder fun space => by
    rw [Finset.empty_union]
    exact hcard space
  refine ⟨hanswers,fun last hall hlast space key => ?_⟩
  obtain ⟨used,hagrees⟩ := hfinal last.timer hlast hall
  rw [InMemoryTTLStore.keys,cache.mem_keys,InMemoryTTLStore.live_getCache le_rfl,
    hagrees.view _ space key le_rfl]

end Ideal

/-- A scope and a plan are kept for a minute; the plan is read in time, the scope is not. -/
def sampleOps : List (Clock × StoreOp ℕ String) :=
  [(⟨0,0⟩,.set "mapping.scope" 3 "scope"),(⟨10,10⟩,.set "execute.plan" 1 "plan"),
    (⟨50,50⟩,.get "execute.plan" 1 true),(⟨80,80⟩,.get "mapping.scope" 3 true),
    (⟨90,90⟩,.get "execute.plan" 1 false)]

theorem run_eq_unbounded_sample :
    ((.create : InMemoryTTLStore (lastWritten 1 (60 : ℕ))).run sampleOps).1=
      [.done,.done,.data (some "plan"),.data none,.data (some "plan")] := by
  have hcard : ∀ space,(keysSet space sampleOps).card ≤ 1 := by
    intro space
    by_cases hscope : "mapping.scope"=space
    · subst hscope
      decide
    · simp only [sampleOps,keysSet,StoreOp.sets,if_neg hscope]
      by_cases hplan : "execute.plan"=space
      · subst hplan
        decide
      · simp [hplan]
  have horder : InOrder 0 sampleOps := by
    norm_num [sampleOps,InOrder]
  have hanswers : (UnboundedStore.run 60 (fun _ _ => none) sampleOps).1=
      [.done,.done,.data (some "plan"),.data none,.data (some "plan")] := by
    decide +kernel
  rw [(run_eq_unbounded sampleOps horder hcard).1,hanswers]

end NspMigrator.RuntimeCacheStore
