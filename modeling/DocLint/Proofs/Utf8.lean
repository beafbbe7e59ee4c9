import DocLint.Text.Utf8

/-!
# Byte offsets

The size of a text is the number of its bytes, and every character has at least one. Beginnings of
one text are therefore ordered by their sizes. `Slice` says which characters stand between two byte
offsets that are borders of characters.
-/

namespace DocLint.Text.Utf8

/-! ## Sizes -/

theorem foldl_charSize (t : Text) (n : Nat) :
    t.foldl (fun n c => n + charSize c) n = n + size t := by
  induction t generalizing n with
  | nil => rfl
  | cons c cs ih =>
    have hcons : size (c :: cs) = 0 + charSize c + size cs := ih (0 + charSize c)
    rw [List.foldl_cons, ih, hcons]
    omega

@[simp] theorem size_nil : size [] = 0 := rfl

@[simp] theorem size_cons (c : Char) (t : Text) : size (c :: t) = charSize c + size t := by
  rw [size, List.foldl_cons, foldl_charSize, Nat.zero_add]

@[simp] theorem size_append (s t : Text) : size (s ++ t) = size s + size t := by
  rw [size, List.foldl_append, foldl_charSize]
  rfl

theorem charSize_pos (c : Char) : 0 < charSize c := by
  unfold charSize
  repeat' split
  all_goals omega

theorem size_pos {t : Text} (h : t ≠ []) : 0 < size t := by
  cases t with
  | nil => exact absurd rfl h
  | cons c cs =>
    have hc := charSize_pos c
    rw [size_cons]
    omega

theorem length_encodeChar (c : Char) : (encodeChar c).length = charSize c := by
  simp only [encodeChar, charSize]
  repeat' split
  all_goals rfl

@[simp] theorem encode_cons (c : Char) (t : Text) : encode (c :: t) = encodeChar c ++ encode t :=
  List.flatMap_cons

@[simp] theorem encode_append (s t : Text) : encode (s ++ t) = encode s ++ encode t :=
  List.flatMap_append

@[simp] theorem length_encode (t : Text) : (encode t).length = size t := by
  induction t with
  | nil => rfl
  | cons c cs ih => rw [encode_cons, List.length_append, length_encodeChar, ih, size_cons]

/-- A byte below 128 is a character by itself and no part of another one. -/
theorem toNat_of_mem_encodeChar {c : Char} {b : UInt8} (h : b ∈ encodeChar c)
    (hb : b.toNat < 0x80) : c.toNat = b.toNat := by
  have hmax : c.toNat < 0x110000 := by
    rcases c.valid with hlow | hhigh
    · change c.toNat < 0xD800 at hlow
      omega
    · exact hhigh.2
  simp only [encodeChar] at h
  repeat' split at h
  -- The bytes of longer characters are numbered from 128 on.
  all_goals
    simp only [List.mem_cons, List.not_mem_nil, or_false] at h
    rcases h with rfl | rfl | rfl | rfl
    all_goals
      rw [UInt8.toNat_ofNat'] at hb ⊢
      omega

theorem eq_of_mem_encodeChar {c d : Char} {b : UInt8} (h : b ∈ encodeChar c) (hb : b.toNat < 0x80)
    (hd : b.toNat = d.toNat) : c = d :=
  Char.toNat_inj.mp ((toNat_of_mem_encodeChar h hb).trans hd)

/-! ## Beginnings of a text -/

/-- Of two beginnings of a text, the one with fewer bytes begins the other. -/
theorem prefix_of_size_le {u v t : Text} (hu : u <+: t) (hv : v <+: t) (hle : size u ≤ size v) :
    u <+: v := by
  rcases List.prefix_or_prefix_of_prefix hu hv with h | ⟨r, rfl⟩
  · exact h
  · cases r with
    | nil => exact ⟨[], by rw [List.append_nil, List.append_nil]⟩
    | cons c cs =>
      have hc := charSize_pos c
      rw [size_append, size_cons] at hle
      omega

/-! ## Slices -/

/-- `s` stands in `t` from byte `a` up to byte `b`, where characters begin. -/
def Slice (t : Text) (a b : Nat) (s : Text) : Prop :=
  ∃ u v, t = u ++ (s ++ v) ∧ size u = a ∧ a + size s = b

namespace Slice

variable {t s : Text} {a b : Nat}

theorem left {s' : Text} (h : Slice t a b (s ++ s')) : Slice t a (a + size s) s := by
  obtain ⟨u, v, rfl, ha, -⟩ := h
  exact ⟨u, s' ++ v, by rw [List.append_assoc], ha, rfl⟩

theorem right {s' : Text} (h : Slice t a b (s ++ s')) : Slice t (a + size s) b s' := by
  obtain ⟨u, v, rfl, rfl, rfl⟩ := h
  refine ⟨u ++ s, v, ?_, size_append u s, ?_⟩
  · rw [List.append_assoc, List.append_assoc]
  · rw [size_append, Nat.add_assoc]

end Slice

end DocLint.Text.Utf8
