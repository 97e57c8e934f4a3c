/-
This file embeds the store that gives surfaces their persistent ids. Ids are looked up by the raw
address of the surface, surfaces by a weak reference under the id; neither entry is ever removed,
and a new surface may come to be where a destroyed one was.

It proves that ids and surfaces correspond one to one exactly as long as no id is asked for at the
address of another surface that has been given one.
-/

import Mathlib.Logic.Function.Basic
import Mir.Library.Transition

namespace Mir.Shell

/-- A surface is known by its place among those created. -/
abbrev PersistentSurface := Nat

/-! ### The two maps -/

structure SurfaceIdBimap (Address ID : Type) where
  idToSurface : ID → Option PersistentSurface
  surfaceToId : Address → Option ID

inductive LookupError (ID : Type)
  | lookupFailed (id : ID)
  deriving DecidableEq

def LookupError.what {ID : Type} (serializeToString : ID → String) : LookupError ID → String
  | .lookupFailed id => "Lookup for surface with ID: " ++ serializeToString id ++ " failed."

namespace SurfaceIdBimap

variable {Address ID : Type}

def empty : SurfaceIdBimap Address ID := ⟨fun _ => none, fun _ => none⟩

/-- The id at an address, which is a new one for the surface if there was none. An id that is known
already keeps its surface. -/
def insertOrRetrieve [DecidableEq Address] [DecidableEq ID]
    (bimap : SurfaceIdBimap Address ID) (address : Address) (surface : PersistentSurface)
    (fresh : ID) : SurfaceIdBimap Address ID × ID :=
  match bimap.surfaceToId address with
  | some id => (bimap, id)
  | none =>
    ({ idToSurface := Function.update bimap.idToSurface fresh
        ((bimap.idToSurface fresh).or (some surface))
       surfaceToId := Function.update bimap.surfaceToId address (some fresh) }, fresh)

end SurfaceIdBimap

/-! ### Surfaces come and go -/

/-- The addresses of the surfaces in the order of their creation, those that are destroyed, the
store with the number of ids that it generated, and the history of the ids that it gave. -/
structure SurfaceStore (Address ID : Type) where
  addresses : List Address
  destroyed : List PersistentSurface
  bimap : SurfaceIdBimap Address ID
  generated : Nat
  answers : List (PersistentSurface × ID)

namespace SurfaceStore

variable {Address ID : Type}

inductive Op (Address ID : Type)
  | create (address : Address)
  | destroy (surface : PersistentSurface)
  | idForSurface (surface : PersistentSurface)
  | surfaceForId (id : ID)

def new : SurfaceStore Address ID := ⟨[], [], .empty, 0, []⟩

/-- Where a surface is, as long as it lives. -/
def addressOf (store : SurfaceStore Address ID) (surface : PersistentSurface) : Option Address :=
  if surface ∈ store.destroyed then none else store.addresses[surface]?

def isLive (store : SurfaceStore Address ID) (surface : PersistentSurface) : Bool :=
  (store.addressOf surface).isSome

/-- No two live surfaces are at one address. -/
def isFree [DecidableEq Address] (store : SurfaceStore Address ID) (address : Address) : Bool :=
  (List.range store.addresses.length).all fun surface => store.addressOf surface != some address

/-- The surface of a weak reference, if it still lives. -/
def surfaceForId (store : SurfaceStore Address ID) (id : ID) :
    Except (LookupError ID) (Option PersistentSurface) :=
  match store.bimap.idToSurface id with
  | none => .error (.lookupFailed id)
  | some surface => .ok (if store.isLive surface then some surface else none)

section Operations

variable [DecidableEq Address] [DecidableEq ID] (generate : Nat → ID)

def idForSurface (store : SurfaceStore Address ID) (surface : PersistentSurface)
    (address : Address) : SurfaceStore Address ID :=
  let (bimap, id) :=
    store.bimap.insertOrRetrieve address surface (generate store.generated)
  { store with
    bimap
    generated := if (store.bimap.surfaceToId address).isSome then store.generated
      else store.generated + 1
    answers := store.answers ++ [(surface, id)] }

/-- A surface is created where no live one is, and only live ones are destroyed or handed in; what
cannot happen leaves everything as it is. -/
def step (store : SurfaceStore Address ID) : Op Address ID → SurfaceStore Address ID
  | .create address =>
    if store.isFree address then { store with addresses := store.addresses ++ [address] } else store
  | .destroy surface =>
    if store.isLive surface then { store with destroyed := surface :: store.destroyed } else store
  | .idForSurface surface =>
    match store.addressOf surface with
    | none => store
    | some address => store.idForSurface generate surface address
  | .surfaceForId _ => store

end Operations

/-! ### One to one -/

/-- A live surface is found under the id that it was given, no surface is given two ids, and no id
is given to two surfaces. -/
structure OneToOne (store : SurfaceStore Address ID) : Prop where
  finds : ∀ surface id, (surface, id) ∈ store.answers → store.isLive surface = true →
    store.surfaceForId id = .ok (some surface)
  repeats : ∀ surface id other, (surface, id) ∈ store.answers → (surface, other) ∈ store.answers →
    id = other
  apart : ∀ surface other id, (surface, id) ∈ store.answers → (other, id) ∈ store.answers →
    surface = other

/-- No id is asked for at the address of another surface that has been given one. -/
def AsksAtOwnAddress (store : SurfaceStore Address ID) : Op Address ID → Prop
  | .idForSurface surface => store.isLive surface = true → ∀ answer ∈ store.answers,
    store.addresses[answer.1]? = store.addresses[surface]? → answer.1 = surface
  | _ => True

instance [DecidableEq Address] (store : SurfaceStore Address ID) :
    ∀ op, Decidable (store.AsksAtOwnAddress op)
  | .idForSurface surface => inferInstanceAs (Decidable (store.isLive surface = true → _))
  | .create _ | .destroy _ | .surfaceForId _ => inferInstanceAs (Decidable True)

variable {generate : Nat → ID} {store : SurfaceStore Address ID}

/-! ### The invariant -/

theorem addressOf_eq_some {surface : PersistentSurface} {address : Address}
    (isAt : store.addressOf surface = some address) : store.addresses[surface]? = some address := by
  unfold addressOf at isAt
  split at isAt
  · cases isAt
  · exact isAt

/-- An id that was given stands at the address of the surface, and an id at an address was given to
a surface created there; the next ids are not known yet. -/
structure Recorded (generate : Nat → ID) (store : SurfaceStore Address ID) : Prop where
  given : ∀ answer ∈ store.answers, ∃ address, store.addresses[answer.1]? = some address ∧
    store.bimap.surfaceToId address = some answer.2
  named : ∀ address id, store.bimap.surfaceToId address = some id →
    ∃ surface, store.addresses[surface]? = some address ∧ (surface, id) ∈ store.answers
  unused : ∀ number, store.generated ≤ number → store.bimap.idToSurface (generate number) = none

/-- The surface under an id is the one that it was given to. -/
def Paired (store : SurfaceStore Address ID) : Prop :=
  ∀ answer ∈ store.answers, store.bimap.idToSurface answer.2 = some answer.1

/-- What a run keeps in which ids are asked for at addresses of their own. -/
structure Kept (generate : Nat → ID) (store : SurfaceStore Address ID) : Prop where
  recorded : Recorded generate store
  paired : store.Paired

theorem recorded_new : Recorded generate (new : SurfaceStore Address ID) :=
  ⟨nofun, nofun, fun _ _ => rfl⟩

theorem paired_new : Paired (new : SurfaceStore Address ID) := nofun

theorem kept_new : Kept generate (new : SurfaceStore Address ID) := ⟨recorded_new, paired_new⟩

theorem Recorded.oneToOne (recorded : Recorded generate store) (paired : store.Paired) :
    store.OneToOne where
  finds surface id member lives := by
    unfold surfaceForId
    rw [paired _ member]
    simp only [if_pos lives]
  repeats surface id other first second := by
    obtain ⟨address, isAt, named⟩ := recorded.given _ first
    obtain ⟨same, isAtSame, namedSame⟩ := recorded.given _ second
    rw [isAt] at isAtSame
    cases isAtSame
    rw [named] at namedSame
    exact Option.some.inj namedSame
  apart surface other id first second := by
    have isFirst := paired _ first
    rw [paired _ second] at isFirst
    exact (Option.some.inj isFirst).symm

theorem getElem?_append_of_some {addresses : List Address} {surface : Nat} {address : Address}
    (isAt : addresses[surface]? = some address) (more : List Address) :
    (addresses ++ more)[surface]? = some address := by
  rw [List.getElem?_append_left (List.getElem?_eq_some_iff.mp isAt).1]
  exact isAt

theorem Recorded.create (recorded : Recorded generate store) (address : Address) :
    Recorded generate { store with addresses := store.addresses ++ [address] } where
  given answer member := by
    obtain ⟨known, isAt, named⟩ := recorded.given answer member
    exact ⟨known, getElem?_append_of_some isAt _, named⟩
  named known id isNamed := by
    obtain ⟨surface, isAt, member⟩ := recorded.named known id isNamed
    exact ⟨surface, getElem?_append_of_some isAt _, member⟩
  unused := recorded.unused

/-- An id that was given is not the next one. -/
theorem Recorded.ne_next (recorded : Recorded generate store) (paired : store.Paired)
    {answer : PersistentSurface × ID} (member : answer ∈ store.answers) :
    answer.2 ≠ generate store.generated := by
  intro same
  have known := paired answer member
  rw [same, recorded.unused _ (Nat.le_refl _)] at known
  cases known

section Operations

variable [DecidableEq Address] [DecidableEq ID]

/-- An address that is known gives its id again. -/
theorem idForSurface_known {surface : PersistentSurface} {address : Address} {id : ID}
    (known : store.bimap.surfaceToId address = some id) :
    store.idForSurface generate surface address =
      { store with answers := store.answers ++ [(surface, id)] } := by
  simp only [idForSurface, SurfaceIdBimap.insertOrRetrieve, known, Option.isSome_some, if_true]

/-- An address that is not known gets the next id. -/
theorem idForSurface_unknown {surface : PersistentSurface} {address : Address}
    (recorded : Recorded generate store) (unknown : store.bimap.surfaceToId address = none) :
    store.idForSurface generate surface address =
      { store with
        bimap :=
          { idToSurface := Function.update store.bimap.idToSurface (generate store.generated)
              (some surface)
            surfaceToId := Function.update store.bimap.surfaceToId address
              (some (generate store.generated)) }
        generated := store.generated + 1
        answers := store.answers ++ [(surface, generate store.generated)] } := by
  simp only [idForSurface, SurfaceIdBimap.insertOrRetrieve, unknown, Option.isSome_none,
    Bool.false_eq_true, if_false, recorded.unused _ (Nat.le_refl _), Option.none_or]

theorem Recorded.idForSurface (recorded : Recorded generate store)
    (distinct : Function.Injective generate) {surface : PersistentSurface} {address : Address}
    (isAt : store.addresses[surface]? = some address) :
    Recorded generate (store.idForSurface generate surface address) := by
  cases known : store.bimap.surfaceToId address with
  | some id =>
    rw [idForSurface_known known]
    refine ⟨fun answer member => ?_, fun other otherID named => ?_, recorded.unused⟩
    · rcases List.mem_append.mp member with before | new
      · exact recorded.given answer before
      · rw [List.mem_singleton.mp new]
        exact ⟨address, isAt, known⟩
    · obtain ⟨found, isAtOther, before⟩ := recorded.named other otherID named
      exact ⟨found, isAtOther, List.mem_append_left _ before⟩
  | none =>
    rw [idForSurface_unknown recorded known]
    refine ⟨fun answer member => ?_, fun other otherID named => ?_, fun number later => ?_⟩
    · rcases List.mem_append.mp member with before | new
      · obtain ⟨place, isAtPlace, named⟩ := recorded.given answer before
        have different : place ≠ address := fun same => by rw [same, known] at named; cases named
        exact ⟨place, isAtPlace, (Function.update_of_ne different _ _).trans named⟩
      · rw [List.mem_singleton.mp new]
        exact ⟨address, isAt, Function.update_self _ _ _⟩
    · by_cases same : other = address
      · subst same
        simp only [Function.update_self, Option.some.injEq] at named
        subst named
        exact ⟨surface, isAt, List.mem_append_right _ List.mem_cons_self⟩
      · simp only [Function.update_of_ne same] at named
        obtain ⟨found, isAtOther, before⟩ := recorded.named other otherID named
        exact ⟨found, isAtOther, List.mem_append_left _ before⟩
    · have different : generate number ≠ generate store.generated := fun same =>
        absurd (distinct same) (Nat.ne_of_gt later)
      exact (Function.update_of_ne different _ _).trans
        (recorded.unused number (Nat.le_of_succ_le later))

theorem Paired.idForSurface (paired : store.Paired) (recorded : Recorded generate store)
    {surface : PersistentSurface} {address : Address}
    (isAt : store.addresses[surface]? = some address)
    (own : ∀ answer ∈ store.answers, store.addresses[answer.1]? = store.addresses[surface]? →
      answer.1 = surface) :
    (store.idForSurface generate surface address).Paired := by
  cases known : store.bimap.surfaceToId address with
  | some id =>
    rw [idForSurface_known known]
    intro answer member
    rcases List.mem_append.mp member with before | new
    · exact paired answer before
    · rw [List.mem_singleton.mp new]
      obtain ⟨owner, isAtOwner, before⟩ := recorded.named address id known
      have isOwner : owner = surface := own _ before (isAtOwner.trans isAt.symm)
      subst isOwner
      exact paired _ before
  | none =>
    rw [idForSurface_unknown recorded known]
    intro answer member
    rcases List.mem_append.mp member with before | new
    · exact (Function.update_of_ne (recorded.ne_next paired before) _ _).trans
        (paired answer before)
    · rw [List.mem_singleton.mp new]
      exact Function.update_self _ _ _

/-! ### Every run -/

theorem Recorded.step (recorded : Recorded generate store)
    (distinct : Function.Injective generate) (op : Op Address ID) :
    Recorded generate (store.step generate op) := by
  cases op with
  | create address =>
    simp only [SurfaceStore.step]
    split
    · exact recorded.create address
    · exact recorded
  | destroy surface =>
    simp only [SurfaceStore.step]
    split
    · exact ⟨recorded.given, recorded.named, recorded.unused⟩
    · exact recorded
  | idForSurface surface =>
    simp only [SurfaceStore.step]
    cases isAt : store.addressOf surface with
    | none => exact recorded
    | some address => exact recorded.idForSurface distinct (addressOf_eq_some isAt)
  | surfaceForId id => exact recorded

theorem Paired.step (paired : store.Paired) (recorded : Recorded generate store)
    {op : Op Address ID} (asks : store.AsksAtOwnAddress op) : (store.step generate op).Paired := by
  cases op with
  | create address =>
    simp only [SurfaceStore.step]
    split <;> exact paired
  | destroy surface =>
    simp only [SurfaceStore.step]
    split <;> exact paired
  | idForSurface surface =>
    simp only [SurfaceStore.step]
    cases isAt : store.addressOf surface with
    | none => exact paired
    | some address =>
      have lives : store.isLive surface = true := Option.isSome_iff_exists.mpr ⟨address, isAt⟩
      exact paired.idForSurface recorded (addressOf_eq_some isAt) (asks lives)
  | surfaceForId id => exact paired

theorem Kept.step (kept : Kept generate store) (distinct : Function.Injective generate)
    {op : Op Address ID} (asks : store.AsksAtOwnAddress op) :
    Kept generate (store.step generate op) :=
  ⟨kept.recorded.step distinct op, kept.paired.step kept.recorded asks⟩

/-- An id that is asked for at the address of another surface is that surface's. -/
theorem asksAtOwnAddress_of_oneToOne (recorded : Recorded generate store) (op : Op Address ID)
    (oneToOne : (store.step generate op).OneToOne) : store.AsksAtOwnAddress op := by
  cases op with
  | idForSurface surface =>
    intro lives answer member same
    obtain ⟨address, isAt⟩ := Option.isSome_iff_exists.mp lives
    obtain ⟨place, isAtPlace, named⟩ := recorded.given answer member
    have isSame : place = address := by
      rw [isAtPlace, addressOf_eq_some isAt] at same
      exact Option.some.inj same
    subst isSame
    have next : store.step generate (.idForSurface surface) =
        { store with answers := store.answers ++ [(surface, answer.2)] } := by
        simp only [SurfaceStore.step, isAt, idForSurface_known named]
    rw [next] at oneToOne
    exact oneToOne.apart answer.1 surface answer.2 (List.mem_append_left _ member)
      (List.mem_append_right _ List.mem_cons_self)
  | create _ | destroy _ | surfaceForId _ => trivial

/-- In every run, ids and surfaces correspond one to one throughout exactly if every id is asked for
at an address where no other surface has been given one. -/
theorem oneToOne_iff (distinct : Function.Injective generate) (ops : List (Op Address ID)) :
    (∀ done, done <+: ops → (done.foldl (step generate) new).OneToOne) ↔
      Transition.AllowedAlong (step generate) AsksAtOwnAddress new ops :=
  Transition.forall_prefix_iff_of_invariant kept_new
    (fun _ _ _ kept asks => kept.step distinct asks)
    (fun _ kept => kept.recorded.oneToOne kept.paired)
    (fun _ op _ kept => asksAtOwnAddress_of_oneToOne kept.recorded op)

theorem oneToOne_twoAddresses :
    Function.Injective (id : Nat → Nat) ∧
      ∀ done, done <+: [.create 5, .idForSurface 0, .destroy 0, .create 6, .idForSurface 1] →
        (done.foldl (step id) (new : SurfaceStore Nat Nat)).OneToOne :=
  ⟨Function.injective_id, (oneToOne_iff Function.injective_id _).mpr (by decide)⟩

/-- A second surface is created where the first one was, and is given its id. -/
theorem reused_address_keeps_id :
    ¬ ∀ done, done <+: [.create 5, .idForSurface 0, .destroy 0, .create 5, .idForSurface 1] →
      (done.foldl (step id) (new : SurfaceStore Nat Nat)).OneToOne := by
  intro always
  have shared := (always _ (List.prefix_refl _)).apart 0 1 0 (by decide) (by decide)
  cases shared

end Operations

end SurfaceStore

end Mir.Shell
