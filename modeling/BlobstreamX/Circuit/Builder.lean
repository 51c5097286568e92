import Mathlib.Data.Vector.Basic

namespace BlobstreamX

/-- `BytesVariable<N>`, a fixed-length byte buffer; `Bytes 32` is `Bytes32Variable`. -/
abbrev Bytes (n : Nat) := Mathlib.Vector UInt8 n

@[simp] theorem toList_vector_replicate {α : Type} (n : Nat) (a : α) :
    (Mathlib.Vector.replicate n a).toList = List.replicate n a :=
  rfl

/-- Circuit construction read on one witness: the value of a gadget's output wires and, in the
order the builder emits them, whether each constraint the gadget adds holds. -/
structure Circuit (α : Type) where
  out : α
  asserts : List Bool

namespace Circuit

variable {α β : Type}

instance : Monad Circuit where
  pure a := ⟨a, []⟩
  bind c f := ⟨(f c.out).out, c.asserts ++ (f c.out).asserts⟩

/-- A gadget that adds one constraint, which holds on the witness exactly when `b`. -/
def assert (b : Bool) : Circuit Unit := ⟨(), [b]⟩

/-- Every constraint the circuit added holds on the witness. -/
def Holds (c : Circuit α) : Prop := ∀ b ∈ c.asserts, b = true

instance (c : Circuit α) : Decidable c.Holds :=
  inferInstanceAs (Decidable (∀ b ∈ c.asserts, b = true))

@[simp] theorem out_pure (a : α) : (pure a : Circuit α).out = a := rfl

@[simp] theorem out_bind (c : Circuit α) (f : α → Circuit β) : (c >>= f).out = (f c.out).out :=
  rfl

@[simp] theorem holds_pure (a : α) : (pure a : Circuit α).Holds := nofun

@[simp] theorem holds_bind (c : Circuit α) (f : α → Circuit β) :
    (c >>= f).Holds ↔ c.Holds ∧ (f c.out).Holds :=
  List.forall_mem_append

@[simp] theorem holds_assert (b : Bool) : (assert b).Holds ↔ b = true := by
  simp [Holds, assert]

end Circuit

/-- `assert_is_equal`. -/
def assertIsEqual {α : Type} [DecidableEq α] (a b : α) : Circuit Unit :=
  Circuit.assert (decide (a = b))

@[simp] theorem holds_assertIsEqual {α : Type} [DecidableEq α] (a b : α) :
    (assertIsEqual a b).Holds ↔ a = b := by
  simp [assertIsEqual]

end BlobstreamX
