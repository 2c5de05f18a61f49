import SieveTube.Library.KeyedMap

/-!
# A key-value store with expiring keys

The commands of a Redis-like store that scripts are made of.  A value is a
text or a counter, and a key that has a time to live may vanish at any
moment.
-/

namespace Keyspace

inductive Value where
  | text (text : String)
  | counter (number : Nat)

/-- Counters are read as decimal numbers. -/
def Value.toText : Value → String
  | .text content => content
  | .counter number => number.repr

structure Entry where
  value : Value
  expires : Bool

end Keyspace

structure Keyspace where
  entries : AList fun _ : String => Keyspace.Entry

namespace Keyspace

def empty : Keyspace := { entries := ∅ }

def lookup (store : Keyspace) (key : String) : Option Entry :=
  store.entries.lookup key

section

variable (store : Keyspace) (key text : String)

def get : Option String := (store.lookup key).map (·.value.toText)

def insert (store : Keyspace) (key : String) (entry : Entry) : Keyspace :=
  { entries := store.entries.insert key entry }

def del : Keyspace := { entries := store.entries.erase key }

def set : Keyspace :=
  store.insert key { value := .text text, expires := false }

/-- `SET` with a time to live. -/
def setPx : Keyspace :=
  store.insert key { value := .text text, expires := true }

/-- `SET` only if the key does not exist. -/
def setNx : Keyspace :=
  match store.lookup key with
  | some _ => store
  | none => store.set key text

def setCounter (number : Nat) : Keyspace :=
  store.insert key { value := .counter number, expires := false }

/-- Increment a counter, which starts at zero; a text is an error. -/
def incr : Option (Nat × Keyspace) :=
  match store.lookup key with
  | none => some (1, store.setCounter key 1)
  | some { value := .counter number, expires } =>
    some (number + 1,
      store.insert key { value := .counter (number + 1), expires })
  | some { value := .text _, .. } => none

/-- Give a key a time to live. -/
def pexpire : Keyspace :=
  match store.lookup key with
  | none => store
  | some entry => store.insert key { entry with expires := true }

/-- The time of a key is over. -/
def expire : Keyspace :=
  match store.lookup key with
  | none => store
  | some entry => if entry.expires then store.del key else store

end

section

variable (store : Keyspace) (key target : String)

@[simp]
theorem lookup_insert (entry : Entry) :
    (store.insert key entry).lookup target =
      if target = key then some entry else store.lookup target :=
  AList.lookup_insert_eq target key entry store.entries

@[simp]
theorem lookup_del : (store.del key).lookup target =
      if target = key then none else store.lookup target :=
  AList.lookup_erase_eq target key store.entries

@[simp]
theorem lookup_set (text : String) :
    (store.set key text).lookup target =
      if target = key then some { value := .text text, expires := false }
      else store.lookup target :=
  lookup_insert ..

@[simp]
theorem lookup_setPx (text : String) :
    (store.setPx key text).lookup target =
      if target = key then some { value := .text text, expires := true }
      else store.lookup target :=
  lookup_insert ..

@[simp]
theorem lookup_setCounter (number : Nat) :
    (store.setCounter key number).lookup target =
      if target = key then
        some { value := .counter number, expires := false }
      else store.lookup target :=
  lookup_insert ..

@[simp]
theorem lookup_setNx (text : String) :
    (store.setNx key text).lookup target =
      if target = key then
        some ((store.lookup key).getD
          { value := .text text, expires := false })
      else store.lookup target := by
  unfold setNx
  by_cases same : target = key
  · subst target
    cases found : store.lookup key with
    | none => simp
    | some entry => simp [found]
  · cases store.lookup key with
    | none => simp [same]
    | some entry => simp [same]

@[simp]
theorem lookup_pexpire :
    (store.pexpire key).lookup target =
      if target = key then
        (store.lookup key).map fun entry => { entry with expires := true }
      else store.lookup target := by
  unfold pexpire
  by_cases same : target = key
  · subst target
    cases found : store.lookup key with
    | none => simp [found]
    | some entry => simp
  · cases store.lookup key with
    | none => simp [same]
    | some entry => simp [same]

@[simp]
theorem lookup_expire : (store.expire key).lookup target =
      if target = key then
        (store.lookup key).filter fun entry => !entry.expires
      else store.lookup target := by
  unfold expire
  by_cases same : target = key
  · subst target
    cases found : store.lookup key with
    | none => simp [found]
    | some entry =>
      cases expires : entry.expires with
      | true => simp [Option.filter, expires]
      | false => simp [Option.filter, expires, found]
  · cases store.lookup key with
    | none => simp [same]
    | some entry =>
      cases expires : entry.expires with
      | true | false => simp [same, expires]

@[simp]
theorem get_set (text : String) :
    (store.set key text).get target =
      if target = key then some text else store.get target := by
  simp only [get, lookup_set]
  split <;> rfl

@[simp]
theorem get_setPx (text : String) :
    (store.setPx key text).get target =
      if target = key then some text else store.get target := by
  simp only [get, lookup_setPx]
  split <;> rfl

@[simp]
theorem get_pexpire :
    (store.pexpire key).get target = store.get target := by
  simp only [get, lookup_pexpire]
  split
  · next same =>
    subst target
    cases store.lookup key <;> rfl
  · rfl

end

variable {key : String} {store : Keyspace}

theorem get_eq_of_lookup_eq {first second : Keyspace}
    (same : first.lookup key = second.lookup key) :
    first.get key = second.get key := by
  simp only [get, same]

theorem get_eq_none_iff : store.get key = none ↔ store.lookup key = none :=
  Option.map_eq_none_iff

/-- Expiry only takes keys away. -/
theorem get_of_expire {target text : String}
    (found : (store.expire key).get target = some text) :
    store.get target = some text := by
  obtain ⟨entry, kept, read⟩ := Option.map_eq_some_iff.mp found
  rw [lookup_expire] at kept
  have stored : store.lookup target = some entry := by
    split at kept
    · next same =>
      subst target
      exact (Option.filter_eq_some_iff.mp kept).1
    · exact kept
  simp [get, stored, read]

/-- What a successful increment does. -/
theorem incr_eq_some {later : Keyspace}
    {number : Nat} (incremented : store.incr key = some (number, later)) :
    (∀ target, target ≠ key → later.lookup target = store.lookup target) ∧
      ((store.lookup key = none ∧ number = 1 ∧ later.lookup key =
            some { value := .counter 1, expires := false }) ∨
        ∃ before expires,
          store.lookup key = some { value := .counter before, expires } ∧
          number = before + 1 ∧
          later.lookup key =
            some { value := .counter (before + 1), expires }) := by
  unfold incr at incremented
  split at incremented
  · next absent =>
    obtain ⟨rfl, rfl⟩ := Prod.mk.inj (Option.some.inj incremented)
    exact ⟨fun target other => by simp [other], .inl ⟨absent, rfl, by simp⟩⟩
  · next before expires found =>
    obtain ⟨rfl, rfl⟩ := Prod.mk.inj (Option.some.inj incremented)
    exact ⟨fun target other => by simp [other],
      .inr ⟨before, expires, found, rfl, by simp⟩⟩
  · cases incremented

end Keyspace
