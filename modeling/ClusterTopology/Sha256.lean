/-!
# SHA-256

The hash function SHA-256 on lists of bytes.  A message is padded to whole blocks
of sixteen words of 32 bits, each block is compressed into a state of eight
words, and the digest is the state in hexadecimal digits.

## Main definitions

* `Sha256.State` — the eight words of the state.
* `Sha256.pad`, `Sha256.blocks` — the padded message and its blocks.
* `Sha256.compress` — the state after one more block.
* `Sha256.digest`, `Sha256.hexDigest` — the last state, and its text.

## Main results

* `Sha256.length_hexDigest`, `Sha256.isHexDigit_of_mem_hexDigest` — the text of a
  digest is 64 lower-case hexadecimal digits.
* `Sha256.hexDigest_inj` — different digests have different texts.
-/

namespace ClusterTopology.Sha256

/-! ### State and constants -/

/-- The eight words of the state. -/
structure State where
  /-- The first word. -/
  a : UInt32
  /-- The second word. -/
  b : UInt32
  /-- The third word. -/
  c : UInt32
  /-- The fourth word. -/
  d : UInt32
  /-- The fifth word. -/
  e : UInt32
  /-- The sixth word. -/
  f : UInt32
  /-- The seventh word. -/
  g : UInt32
  /-- The eighth word. -/
  h : UInt32
  deriving DecidableEq

/-- The state before the first block. -/
def State.initial : State :=
  ⟨0x6a09e667, 0xbb67ae85, 0x3c6ef372, 0xa54ff53a, 0x510e527f, 0x9b05688c, 0x1f83d9ab, 0x5be0cd19⟩

/-- The sum of two states, word by word. -/
def State.add (s t : State) : State :=
  ⟨s.a + t.a, s.b + t.b, s.c + t.c, s.d + t.d, s.e + t.e, s.f + t.f, s.g + t.g, s.h + t.h⟩

/-- The words of a state in order. -/
def State.words (s : State) : List UInt32 := [s.a, s.b, s.c, s.d, s.e, s.f, s.g, s.h]

/-- The constant of each of the 64 rounds. -/
def roundConstants : List UInt32 :=
  [0x428a2f98, 0x71374491, 0xb5c0fbcf, 0xe9b5dba5, 0x3956c25b, 0x59f111f1, 0x923f82a4, 0xab1c5ed5,
    0xd807aa98, 0x12835b01, 0x243185be, 0x550c7dc3, 0x72be5d74, 0x80deb1fe, 0x9bdc06a7, 0xc19bf174,
    0xe49b69c1, 0xefbe4786, 0x0fc19dc6, 0x240ca1cc, 0x2de92c6f, 0x4a7484aa, 0x5cb0a9dc, 0x76f988da,
    0x983e5152, 0xa831c66d, 0xb00327c8, 0xbf597fc7, 0xc6e00bf3, 0xd5a79147, 0x06ca6351, 0x14292967,
    0x27b70a85, 0x2e1b2138, 0x4d2c6dfc, 0x53380d13, 0x650a7354, 0x766a0abb, 0x81c2c92e, 0x92722c85,
    0xa2bfe8a1, 0xa81a664b, 0xc24b8b70, 0xc76c51a3, 0xd192e819, 0xd6990624, 0xf40e3585, 0x106aa070,
    0x19a4c116, 0x1e376c08, 0x2748774c, 0x34b0bcb5, 0x391c0cb3, 0x4ed8aa4a, 0x5b9cca4f, 0x682e6ff3,
    0x748f82ee, 0x78a5636f, 0x84c87814, 0x8cc70208, 0x90befffa, 0xa4506ceb, 0xbef9a3f7, 0xc67178f2]

/-! ### Word functions -/

/-- The word rotated to the right by `n` bits, for `n` from 1 to 31. -/
def rotateRight (x : UInt32) (n : UInt32) : UInt32 := (x >>> n) ||| (x <<< (32 - n))

/-- In each bit, the choice of `x` between `y` and `z`. -/
def choose (x y z : UInt32) : UInt32 := (x &&& y) ^^^ (~~~x &&& z)

/-- In each bit, the majority of three words. -/
def majority (x y z : UInt32) : UInt32 := (x &&& y) ^^^ (x &&& z) ^^^ (y &&& z)

/-- The mixing of the first word of the state. -/
def upperSigma0 (x : UInt32) : UInt32 := rotateRight x 2 ^^^ rotateRight x 13 ^^^ rotateRight x 22

/-- The mixing of the fifth word of the state. -/
def upperSigma1 (x : UInt32) : UInt32 := rotateRight x 6 ^^^ rotateRight x 11 ^^^ rotateRight x 25

/-- The mixing of the word fifteen places back in the schedule. -/
def lowerSigma0 (x : UInt32) : UInt32 := rotateRight x 7 ^^^ rotateRight x 18 ^^^ (x >>> 3)

/-- The mixing of the word two places back in the schedule. -/
def lowerSigma1 (x : UInt32) : UInt32 := rotateRight x 17 ^^^ rotateRight x 19 ^^^ (x >>> 10)

/-! ### Compression -/

/-- The word that follows sixteen words of the schedule. -/
def scheduled (window : List UInt32) : UInt32 :=
  lowerSigma1 (window.getD 14 0) + window.getD 9 0 + lowerSigma0 (window.getD 1 0) +
    window.getD 0 0

/-- The first `n` words of the schedule that begins with the given sixteen. -/
def schedule : Nat → List UInt32 → List UInt32
  | 0, _ => []
  | n + 1, window => window.getD 0 0 :: schedule n (window.drop 1 ++ [scheduled window])

/-- The state after a round with its constant and its word of the schedule. -/
def round (s : State) (constant word : UInt32) : State :=
  let t₁ := s.h + upperSigma1 s.e + choose s.e s.f s.g + constant + word
  let t₂ := upperSigma0 s.a + majority s.a s.b s.c
  ⟨t₁ + t₂, s.a, s.b, s.c, s.d + t₁, s.e, s.f, s.g⟩

/-- The state after one more block. -/
def compress (s : State) (block : List UInt32) : State :=
  s.add ((roundConstants.zip (schedule 64 block)).foldl (fun t kw => round t kw.1 kw.2) s)

/-! ### Padding -/

/-- The last `n` bytes of a number, the most significant one first. -/
def bigEndian (n : Nat) (value : Nat) : List UInt8 :=
  (List.range n).reverse.map fun i => UInt8.ofNat (value >>> (8 * i))

/-- The message with a one bit, zeros and its length in bits after it, which fills
whole blocks of 64 bytes. -/
def pad (message : List UInt8) : List UInt8 :=
  message ++ [0x80] ++ List.replicate ((119 - message.length % 64) % 64) 0 ++
    bigEndian 8 (8 * message.length)

/-- The words of bytes, four at a time. -/
def words : List UInt8 → List UInt32
  | a :: b :: c :: d :: rest =>
    (a.toUInt32 <<< 24 ||| b.toUInt32 <<< 16 ||| c.toUInt32 <<< 8 ||| d.toUInt32) :: words rest
  | _ => []

/-- The blocks of sixteen words. -/
def blocks (ws : List UInt32) : List (List UInt32) :=
  (List.range (ws.length / 16)).map fun i => (ws.drop (16 * i)).take 16

/-! ### Digest -/

/-- The state after all blocks of a message. -/
def digest (message : List UInt8) : State :=
  (blocks (words (pad message))).foldl compress .initial

/-- The eight hexadecimal digits of a word. -/
def hexWord (w : UInt32) : List Char :=
  [28, 24, 20, 16, 12, 8, 4, 0].map fun shift => Nat.digitChar (w.toNat >>> shift % 16)

/-- The digest of a message in lower-case hexadecimal digits. -/
def hexDigest (message : List UInt8) : String :=
  String.ofList ((digest message).words.flatMap hexWord)

/-- Whether a character is a lower-case hexadecimal digit. -/
def isHexDigit (c : Char) : Bool := c.isDigit || ('a' ≤ c && c ≤ 'f')

theorem isHexDigit_digitChar {n : Nat} (h : n < 16) : isHexDigit (Nat.digitChar n) = true := by
  revert n
  decide

@[simp] theorem toList_hexDigest (message : List UInt8) :
    (hexDigest message).toList = (digest message).words.flatMap hexWord := by
  simp [hexDigest]

@[simp] theorem length_hexDigest (message : List UInt8) : (hexDigest message).length = 64 := by
  simp [← String.length_toList, State.words, hexWord]

theorem isHexDigit_of_mem_hexDigest {message : List UInt8} {c : Char}
    (h : c ∈ (hexDigest message).toList) : isHexDigit c = true := by
  rw [toList_hexDigest, List.mem_flatMap] at h
  obtain ⟨w, -, hc⟩ := h
  obtain ⟨shift, -, rfl⟩ := List.mem_map.mp hc
  exact isHexDigit_digitChar (Nat.mod_lt _ (by decide))

/-! ### Digests and their texts -/

theorem eq_of_digitChar_eq :
    ∀ m < 16, ∀ n < 16, Nat.digitChar m = Nat.digitChar n → m = n := by
  decide

/-- Numbers with the same last `n` hexadecimal digits and the same rest are the same. -/
theorem eq_of_hexDigits_eq {a b : Nat} (n : Nat)
    (hdigits : ∀ i < n, a >>> (4 * i) % 16 = b >>> (4 * i) % 16)
    (hrest : a >>> (4 * n) = b >>> (4 * n)) : a = b := by
  induction n with
  | zero => exact hrest
  | succ n ih =>
    refine ih (fun i hi => hdigits i (by omega)) ?_
    have hdigit := hdigits n (by omega)
    rw [Nat.mul_succ, Nat.shiftRight_add, Nat.shiftRight_add] at hrest
    omega

theorem hexWord_inj {v w : UInt32} : hexWord v = hexWord w ↔ v = w := by
  refine ⟨fun h => UInt32.toNat_inj.mp (eq_of_hexDigits_eq 8 ?_ ?_), congrArg hexWord⟩
  · intro i hi
    have hmem : ∀ i < 8, 4 * i ∈ [28, 24, 20, 16, 12, 8, 4, 0] := by decide
    exact eq_of_digitChar_eq _ (Nat.mod_lt _ (by decide)) _ (Nat.mod_lt _ (by decide))
      (List.map_inj_left.mp h (4 * i) (hmem i hi))
  · have hv := v.toNat_lt
    have hw := w.toNat_lt
    omega

/-- Words can be told from their digits, as each of them has eight. -/
theorem flatMap_hexWord_inj {vs ws : List UInt32} :
    vs.flatMap hexWord = ws.flatMap hexWord ↔ vs = ws := by
  refine ⟨fun h => ?_, congrArg (List.flatMap hexWord)⟩
  induction vs generalizing ws with
  | nil =>
    cases ws with
    | nil => rfl
    | cons w ws => exact absurd h.symm (List.cons_ne_nil _ _)
  | cons v vs ih =>
    cases ws with
    | nil => exact absurd h (List.cons_ne_nil _ _)
    | cons w ws =>
      obtain ⟨hhead, htail⟩ := List.append_inj h rfl
      rw [hexWord_inj.mp hhead, ih htail]

theorem State.words_inj {s t : State} : s.words = t.words ↔ s = t := by
  cases s
  cases t
  simp only [State.words, List.cons.injEq, State.mk.injEq, and_true]

/-- Different digests have different texts. -/
theorem hexDigest_inj {m n : List UInt8} : hexDigest m = hexDigest n ↔ digest m = digest n := by
  rw [← String.toList_inj, toList_hexDigest, toList_hexDigest, flatMap_hexWord_inj,
    State.words_inj]

end ClusterTopology.Sha256
