/-!
# Fingerprints

A fingerprint identifies a variant of deployment within an installation.  It is
too long for the name of a resource, so resources are named after its short ID,
its last ten bytes.  A character takes up one to four bytes, so that not every
number of last bytes is a number of last characters.

## Main definitions

* `Text.size` — the size of a text in bytes.
* `Text.suffixOfSize?` — the last characters of a text that have a given size.
* `Fingerprint` — a fingerprint, by its text.
* `Fingerprint.shortId` — the short ID of a fingerprint.
-/

namespace ClusterTopology

/-! ### Sizes of texts -/

namespace Text

/-- The size of a text in bytes. -/
def size : List Char → Nat
  | [] => 0
  | c :: cs => c.utf8Size + size cs

/-- The characters that make up the last `n` bytes of a text, if these begin with
a character. -/
def suffixOfSize? (n : Nat) : List Char → Option (List Char)
  | [] => if n = 0 then some [] else none
  | c :: cs => if size (c :: cs) = n then some (c :: cs) else suffixOfSize? n cs

@[simp] theorem size_nil : size [] = 0 := rfl

@[simp] theorem size_cons (c : Char) (cs : List Char) :
    size (c :: cs) = c.utf8Size + size cs := rfl

end Text

/-! ### Fingerprints -/

/-- A fingerprint, by its text. -/
@[ext] structure Fingerprint where
  /-- The text of the fingerprint. -/
  text : String
  deriving DecidableEq, Inhabited, Repr

namespace Fingerprint

/-- Fingerprints are ordered like their texts. -/
instance : LT Fingerprint where
  lt f g := f.text < g.text

/-- Fingerprints are ordered like their texts. -/
instance : LE Fingerprint where
  le f g := f.text ≤ g.text

instance : DecidableLT Fingerprint := fun f g => inferInstanceAs (Decidable (f.text < g.text))

theorem lt_iff {f g : Fingerprint} : f < g ↔ f.text < g.text := Iff.rfl

theorem le_iff {f g : Fingerprint} : f ≤ g ↔ f.text ≤ g.text := Iff.rfl

instance : Std.IsLinearOrder Fingerprint := by
  apply Std.IsLinearOrder.of_le
  case le_antisymm => exact ⟨fun _ _ h h' => Fingerprint.ext (String.le_antisymm h h')⟩
  case le_trans => exact ⟨fun h h' => String.le_trans h h'⟩
  case le_total => exact ⟨fun f g => String.le_total f.text g.text⟩

instance : Std.LawfulOrderLT Fingerprint where
  lt_iff f g := Std.LawfulOrderLT.lt_iff f.text g.text

/-- The number of bytes in a short ID. -/
def shortIdSize : Nat := 10

/-- The last bytes of the fingerprint, or all of it if it has too few or if they do
not begin with a character. -/
def shortId (f : Fingerprint) : String :=
  (Text.suffixOfSize? shortIdSize f.text.toList).elim f.text String.ofList

end Fingerprint

end ClusterTopology
