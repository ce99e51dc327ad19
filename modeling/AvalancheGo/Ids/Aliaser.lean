import AvalancheGo.Ids.ID
import Mathlib.Logic.Function.Basic
import Mathlib.Data.List.Nodup

/-! The aliaser: two maps, alias to ID and ID to aliases, kept mutually consistent by every call. -/

namespace AvalancheGo

/-- The errors of the aliaser, by the message each one formats. -/
inductive AliasError
  /-- "there is no ID with alias %s" -/
  | noIDWithAlias (name : String)
  /-- "there is no alias for ID %s" -/
  | noAliasForID (id : ID)
  /-- "%s is already used as an alias for an ID" -/
  | alreadyUsed (name : String)
deriving DecidableEq

/--
An `Aliaser`: `dealias` from each alias to its ID, `aliases` from each ID to its aliases in order.
The method `Aliases` returns the entry of `aliases` as it is, so the field stands for it.
-/
structure Aliaser where
  dealias : String → Option ID
  aliases : ID → Slice String

namespace Aliaser

/-- `Initialize`: no aliases at all. -/
def init : Aliaser := ⟨fun _ => none, fun _ => none⟩

/-- `Lookup`: the ID an alias names. -/
def lookup (a : Aliaser) (name : String) : Except AliasError ID :=
  match a.dealias name with
  | some id => .ok id
  | none => .error (.noIDWithAlias name)

/-- `PrimaryAlias`: the first alias of an ID. -/
def primaryAlias (a : Aliaser) (id : ID) : Except AliasError String :=
  match (a.aliases id).toList with
  | [] => .error (.noAliasForID id)
  | name :: _ => .ok name

end Aliaser

/-- `Alias`: refuse an alias already in use, else record it both ways, appended to the ID's list. -/
def Aliaser.alias (a : Aliaser) (id : ID) (name : String) : Aliaser × Option AliasError :=
  match a.dealias name with
  | some _ => (a, some (.alreadyUsed name))
  | none =>
    ({ dealias := Function.update a.dealias name (some id)
       aliases := Function.update a.aliases id (some ((a.aliases id).toList ++ [name])) }, none)

namespace Aliaser

/-- `RemoveAliases`: drop the ID's list, then each of its aliases from `dealias`. -/
def removeAliases (a : Aliaser) (id : ID) : Aliaser :=
  { aliases := Function.update a.aliases id none
    dealias := (a.aliases id).toList.foldl (fun dealias name => Function.update dealias name none)
      a.dealias }

/-- The two maps agree, and no ID lists an alias twice. -/
structure Consistent (a : Aliaser) : Prop where
  dealias_iff : ∀ name id, a.dealias name = some id ↔ name ∈ (a.aliases id).toList
  nodup : ∀ id, (a.aliases id).toList.Nodup

/-- Deleting each alias of a list from `dealias` deletes exactly those. -/
theorem foldl_update_none (names : List String) (dealias : String → Option ID) (name : String) :
    names.foldl (fun dealias name => Function.update dealias name none) dealias name =
      if name ∈ names then none else dealias name := by
  -- Each name removed is cleared, and the others keep their entry.
  induction names generalizing dealias with
  | nil => simp
  | cons first rest ih =>
    by_cases same : name = first
    · subst same; simp [ih]
    · simp [ih, same]

/-- Nothing is aliased after `Initialize`. -/
theorem consistent_init : init.Consistent := ⟨by simp [init], by simp [init]⟩

/-- An alias of one ID is an alias of no other. -/
theorem Consistent.unique {a : Aliaser} (consistent : a.Consistent) {name : String} {id id' : ID}
    (mem : name ∈ (a.aliases id).toList) (mem' : name ∈ (a.aliases id').toList) : id = id' := by
  have named := (consistent.dealias_iff name id).2 mem
  rw [(consistent.dealias_iff name id').2 mem'] at named
  exact (Option.some.inj named).symm

/-- `Alias` fails exactly on an alias already in use, and then changes nothing. -/
theorem alias_error {a : Aliaser} (consistent : a.Consistent) (id : ID) (name : String) :
    ((a.alias id name).2.isSome ↔ ∃ id', name ∈ (a.aliases id').toList) ∧
      ((a.alias id name).2.isSome → (a.alias id name).1 = a) := by
  -- A name already given is refused and changes nothing; a fresh one is recorded.
  unfold Aliaser.alias
  cases named : a.dealias name with
  | some id' => exact ⟨by simpa using ⟨id', (consistent.dealias_iff name id').1 named⟩, fun _ => rfl⟩
  | none =>
    simp only [Option.isSome_none, Bool.false_eq_true, false_iff, false_implies, and_true]
    rintro ⟨id', mem⟩
    simp [(consistent.dealias_iff name id').2 mem] at named

/-- `Alias` keeps the maps consistent. -/
theorem Consistent.alias {a : Aliaser} (consistent : a.Consistent) (id : ID) (name : String) :
    (a.alias id name).1.Consistent := by
  -- A refused alias changes nothing; a fresh one is recorded on both sides.
  unfold Aliaser.alias
  cases named : a.dealias name with
  | some _ => exact consistent
  | none =>
    -- The new alias was in no list, so it joins only the list of `id`, once.
    have unused : ∀ id', name ∉ (a.aliases id').toList := fun id' mem => by
      simp [(consistent.dealias_iff name id').2 mem] at named
    constructor
    · intro name' id'
      by_cases same : name' = name <;> by_cases mine : id' = id
      · subst same mine; simp
      · subst same; simp [Ne.symm mine, unused id', mine]
      · subst mine; simp [same, consistent.dealias_iff]
      · simp [same, mine, consistent.dealias_iff]
    · intro id'
      by_cases mine : id' = id
      · subst mine; simp [List.nodup_append, consistent.nodup, unused]
      · simp [mine, consistent.nodup]

/-- `RemoveAliases` keeps the maps consistent. -/
theorem Consistent.removeAliases {a : Aliaser} (consistent : a.Consistent) (id : ID) :
    (a.removeAliases id).Consistent := by
  -- Clearing an ID's names clears them from the lookup as well.
  constructor
  · intro name id'
    simp only [Aliaser.removeAliases, foldl_update_none]
    by_cases mine : id' = id
    · subst mine
      by_cases mem : name ∈ (a.aliases id').toList <;> simp [mem, consistent.dealias_iff]
    · by_cases mem : name ∈ (a.aliases id).toList
      · -- An alias of `id` is deleted, and no other ID lists it.
        simp only [mem, if_true, Function.update_noteq mine, reduceCtorEq, false_iff]
        exact fun mem' => mine (consistent.unique mem' mem)
      · simp [mem, mine, consistent.dealias_iff]
  · intro id'
    by_cases mine : id' = id
    · subst mine; simp [Aliaser.removeAliases]
    · simp [Aliaser.removeAliases, mine, consistent.nodup]

end Aliaser

/-- A call that changes the aliaser: `Alias(id, name)` or `RemoveAliases(id)`. -/
inductive AliasCall
  | giveAlias (id : ID) (name : String)
  | removeAliases (id : ID)

namespace Aliaser

/-- The aliaser after one call, whatever the call returned. -/
def call (a : Aliaser) : AliasCall → Aliaser
  | .giveAlias id name => (a.alias id name).1
  | .removeAliases id => a.removeAliases id

/-- The aliaser after a sequence of calls. -/
def run (a : Aliaser) (calls : List AliasCall) : Aliaser := calls.foldl call a

/--
The aliases given to `id` by the `Alias` calls that succeeded since its last `RemoveAliases`,
in the order given, starting from `given`.
-/
def givenSince (id : ID) : Aliaser → List AliasCall → List String → List String
  | _, [], given => given
  | a, .giveAlias id' name :: rest, given =>
    givenSince id (a.alias id' name).1 rest
      (if id' = id ∧ (a.alias id' name).2 = none then given ++ [name] else given)
  | a, .removeAliases id' :: rest, given =>
    givenSince id (a.removeAliases id') rest (if id' = id then [] else given)

/-- Every call keeps the maps consistent. -/
theorem Consistent.run {a : Aliaser} (consistent : a.Consistent) (calls : List AliasCall) :
    (a.run calls).Consistent := by
  -- Each call keeps the aliaser consistent.
  induction calls generalizing a with
  | nil => exact consistent
  | cons c rest ih =>
    cases c with
    | giveAlias id name => exact ih (consistent.alias id name)
    | removeAliases id => exact ih (consistent.removeAliases id)

/-- The aliases an ID lists are those given to it since its last removal, in order. -/
theorem aliases_run (id : ID) (calls : List AliasCall) :
    ∀ a, ((a.run calls).aliases id).toList = givenSince id a calls ((a.aliases id).toList) := by
  -- One call at a time, each adding to or clearing the ID's names.
  induction calls with
  | nil => intro a; rfl
  | cons c rest ih =>
    intro a
    cases c with
    | giveAlias id' name =>
      rw [run, List.foldl_cons, ← run, ih, givenSince]
      congr 1
      -- A successful `Alias` on `id` appends to its list; anything else leaves the list alone.
      simp only [Aliaser.call]
      cases named : a.dealias name with
      | some _ => simp [Aliaser.alias, named]
      | none =>
        by_cases mine : id' = id
        · subst mine; simp [Aliaser.alias, named]
        · simp [Aliaser.alias, named, mine, Ne.symm mine]
    | removeAliases id' =>
      rw [run, List.foldl_cons, ← run, ih, givenSince]
      congr 1
      by_cases mine : id' = id
      · subst mine; simp [Aliaser.call, Aliaser.removeAliases]
      · simp [Aliaser.call, Aliaser.removeAliases, mine, Ne.symm mine]

end Aliaser

/--
After any calls of `Alias` and `RemoveAliases` from `Initialize`, `Lookup(name)` gives `id` exactly
when `name` is among `Aliases(id)`; an alias belongs to one ID and appears there once; `Alias`
fails exactly on an alias in use, and then changes nothing; and `PrimaryAlias(id)` is the first
alias given to `id` since its last `RemoveAliases`, or an error when there is none.
-/
theorem aliaser_consistent (calls : List AliasCall) :
    (∀ name id, (Aliaser.init.run calls).lookup name = .ok id ↔
      name ∈ ((Aliaser.init.run calls).aliases id).toList) ∧
    (∀ name id id', name ∈ ((Aliaser.init.run calls).aliases id).toList →
      name ∈ ((Aliaser.init.run calls).aliases id').toList → id = id') ∧
    (∀ id, ((Aliaser.init.run calls).aliases id).toList.Nodup) ∧
    (∀ id name, (((Aliaser.init.run calls).alias id name).2.isSome ↔
        ∃ id', name ∈ ((Aliaser.init.run calls).aliases id').toList) ∧
      (((Aliaser.init.run calls).alias id name).2.isSome →
        ((Aliaser.init.run calls).alias id name).1 = Aliaser.init.run calls)) ∧
    ∀ id, (Aliaser.init.run calls).primaryAlias id =
      match Aliaser.givenSince id Aliaser.init calls [] with
      | [] => .error (.noAliasForID id)
      | name :: _ => .ok name := by
  -- Everything follows from the consistency every call keeps, and the history of each list.
  have consistent := Aliaser.consistent_init.run calls
  refine ⟨fun name id => ?_, fun _ _ _ => consistent.unique, consistent.nodup,
    fun id name => Aliaser.alias_error consistent id name, fun id => ?_⟩
  · rw [← consistent.dealias_iff]
    unfold Aliaser.lookup
    split <;> simp_all
  · have history := Aliaser.aliases_run id calls Aliaser.init
    have empty : (Aliaser.init.aliases id).toList = [] := rfl
    rw [empty] at history
    rw [Aliaser.primaryAlias, history]

end AvalancheGo
