/-! # Single-entry caches

A cache remembers the value of the key that was stored last, and nothing else: storing under another
key forgets the value before, and a look-up with another key finds nothing. -/

namespace ClockFace

/-- A cache of one entry. A key may be stored without a value; then nothing is found under it. -/
structure Cache (κ υ : Type) where
  lastKey : Option κ
  value : Option υ
  deriving Repr, DecidableEq

namespace Cache

variable {κ υ : Type}

/-- The cache without an entry. -/
def empty : Cache κ υ :=
  ⟨none, none⟩

/-- The value stored under a key. -/
def find? [BEq κ] (c : Cache κ υ) (key : κ) : Option υ :=
  if c.lastKey == some key then c.value else none

/-- Store a value under a key. -/
def store (_ : Cache κ υ) (key : κ) (value : Option υ) : Cache κ υ :=
  ⟨some key, value⟩

@[simp] theorem find?_empty [BEq κ] (key : κ) : (empty : Cache κ υ).find? key = none := by
  simp [find?, empty]

@[simp] theorem find?_store_self [BEq κ] [LawfulBEq κ] (c : Cache κ υ) (key : κ)
    (value : Option υ) : (c.store key value).find? key = value := by
  simp [find?, store]

theorem find?_store_of_ne [BEq κ] [LawfulBEq κ] (c : Cache κ υ) {key other : κ}
    (value : Option υ) (h : key ≠ other) : (c.store key value).find? other = none := by
  simp [find?, store, h]

end Cache

end ClockFace
