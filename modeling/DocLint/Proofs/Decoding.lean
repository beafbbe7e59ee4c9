import DocLint.Proofs.Text
import DocLint.Proofs.Utf8
import DocLint.Tree

/-!
# Well-formed bytes

`decode?` is the inverse of `encode`: it reads the bytes of every text, and what it reads off some
bytes has exactly these bytes. So the bytes of a file are well-formed if and only if they are the
bytes of a text, and that text is the text of the file.
-/

namespace DocLint

namespace Text.Utf8

/-! ## Characters by number -/

theorem toNat_lt (c : Char) : c.toNat < 0xD800 ∨ 0xDFFF < c.toNat ∧ c.toNat < 0x110000 :=
  c.valid

theorem scalar?_eq_some_iff {least n : Nat} {c : Char} :
    scalar? least n = some c ↔ c.toNat = n ∧ least ≤ n := by
  have hc := toNat_lt c
  unfold scalar?
  split
  · rename_i hnone
    simp only [Bool.or_eq_true, Bool.and_eq_true, decide_eq_true_eq] at hnone
    simp only [reduceCtorEq, false_iff, not_and]
    omega
  · rename_i hsome
    simp only [Bool.or_eq_true, Bool.and_eq_true, decide_eq_true_eq] at hsome
    have hvalid : n.isValidChar := by
      show n < 0xD800 ∨ 0xDFFF < n ∧ n < 0x110000
      omega
    have hn := toNat_ofNat hvalid
    constructor
    · intro h
      cases h
      exact ⟨hn, by omega⟩
    · rintro ⟨rfl, -⟩
      rw [Char.ofNat_toNat]

theorem tail?_eq_some_iff {b : UInt8} {x : Nat} :
    tail? b = some x ↔ x < 64 ∧ b = UInt8.ofNat (0x80 + x) := by
  have hb := UInt8.toNat_lt b
  unfold tail?
  rw [← UInt8.toNat_inj, UInt8.toNat_ofNat']
  simp only [Bool.and_eq_true, decide_eq_true_eq]
  split
  · rw [Option.some.injEq]
    omega
  · simp only [reduceCtorEq, false_iff]
    omega

theorem tail?_ofNat (x : Nat) : tail? (UInt8.ofNat (0x80 + x % 64)) = some (x % 64) :=
  tail?_eq_some_iff.mpr ⟨by omega, rfl⟩

/-! ## Reading what was written -/

section Forward

variable {a b c d : UInt8} {rest : List UInt8} {x y z : Nat} {ch : Char}

theorem decodeLoop_one (read : Text) (h : a.toNat < 0x80) :
    decodeLoop read (a :: rest) = decodeLoop (Char.ofNat a.toNat :: read) rest := by
  conv => lhs; unfold decodeLoop
  simp only [h, if_true]

theorem decodeLoop_two (read : Text) (hlow : 0xC2 ≤ a.toNat) (hhigh : a.toNat < 0xE0)
    (hb : tail? b = some x) :
    decodeLoop read (a :: b :: rest) =
      decodeLoop (Char.ofNat ((a.toNat - 0xC0) * 64 + x) :: read) rest := by
  rw [decodeLoop]
  simp only [hb]
  rw [if_neg (by omega), if_neg (by omega), if_pos hhigh]

theorem decodeLoop_three (read : Text) (hlow : 0xE0 ≤ a.toNat) (hhigh : a.toNat < 0xF0)
    (hb : tail? b = some x) (hc : tail? c = some y)
    (hch : scalar? 0x800 (((a.toNat - 0xE0) * 64 + x) * 64 + y) = some ch) :
    decodeLoop read (a :: b :: c :: rest) = decodeLoop (ch :: read) rest := by
  rw [decodeLoop]
  simp only [hb, hc, hch]
  rw [if_neg (by omega), if_neg (by omega), if_neg (by omega), if_pos hhigh]

theorem decodeLoop_four (read : Text) (hlow : 0xF0 ≤ a.toNat) (hhigh : a.toNat < 0xF5)
    (hb : tail? b = some x) (hc : tail? c = some y) (hd : tail? d = some z)
    (hch : scalar? 0x10000 ((((a.toNat - 0xF0) * 64 + x) * 64 + y) * 64 + z) = some ch) :
    decodeLoop read (a :: b :: c :: d :: rest) = decodeLoop (ch :: read) rest := by
  rw [decodeLoop]
  simp only [hb, hc, hd, hch]
  rw [if_neg (by omega), if_neg (by omega), if_neg (by omega), if_neg (by omega), if_pos hhigh]

end Forward

theorem decodeLoop_encodeChar (read : Text) (c : Char) (rest : List UInt8) :
    decodeLoop read (encodeChar c ++ rest) = decodeLoop (c :: read) rest := by
  have hc := toNat_lt c
  have hself := Char.ofNat_toNat c
  have hbyte : ∀ k, k < 0x100 → (UInt8.ofNat k).toNat = k := fun k hk =>
    UInt8.toNat_ofNat_of_lt' hk
  generalize hn : c.toNat = n at hc hself
  unfold encodeChar
  rw [hn]
  -- One case for each number of bytes; the first byte tells the case.
  by_cases h1 : n < 0x80
  · have hfirst := hbyte n (by omega)
    rw [if_pos h1, List.cons_append, List.nil_append, decodeLoop_one read (by omega), hfirst, hself]
  rw [if_neg h1]
  by_cases h2 : n < 0x800
  · have hfirst := hbyte (0xC0 + n / 64) (by omega)
    have hnumber : (0xC0 + n / 64 - 0xC0) * 64 + n % 64 = n := by omega
    rw [if_pos h2, List.cons_append, List.cons_append, List.nil_append,
      decodeLoop_two read (by omega) (by omega) (tail?_ofNat _), hfirst, hnumber, hself]
  rw [if_neg h2]
  by_cases h3 : n < 0x10000
  · have hfirst := hbyte (0xE0 + n / 4096) (by omega)
    have hnumber : ((0xE0 + n / 4096 - 0xE0) * 64 + n / 64 % 64) * 64 + n % 64 = n := by omega
    rw [if_pos h3, List.cons_append, List.cons_append, List.cons_append, List.nil_append]
    refine decodeLoop_three read (by omega) (by omega) (tail?_ofNat _) (tail?_ofNat _) ?_
    rw [hfirst, hnumber]
    exact scalar?_eq_some_iff.mpr ⟨hn, by omega⟩
  · have hfirst := hbyte (0xF0 + n / 262144) (by omega)
    have hnumber : (((0xF0 + n / 262144 - 0xF0) * 64 + n / 4096 % 64) * 64 + n / 64 % 64) * 64 +
        n % 64 = n := by omega
    rw [if_neg h3, List.cons_append, List.cons_append, List.cons_append, List.cons_append,
      List.nil_append]
    refine decodeLoop_four read (by omega) (by omega) (tail?_ofNat _) (tail?_ofNat _)
      (tail?_ofNat _) ?_
    rw [hfirst, hnumber]
    exact scalar?_eq_some_iff.mpr ⟨hn, by omega⟩

theorem decodeLoop_encode (read t : Text) : decodeLoop read (encode t) = some (read.reverse ++ t) := by
  induction t generalizing read with
  | nil =>
    show decodeLoop read [] = _
    rw [decodeLoop, List.append_nil]
  | cons c cs ih =>
    rw [encode_cons, decodeLoop_encodeChar, ih, List.reverse_cons, List.append_assoc,
      List.singleton_append]

/-! ## Writing what was read -/

theorem encodeChar_one {a : UInt8} (h : a.toNat < 0x80) :
    encodeChar (Char.ofNat a.toNat) = [a] := by
  have hn : (Char.ofNat a.toNat).toNat = a.toNat := toNat_ofNat (.inl (by omega))
  unfold encodeChar
  rw [hn, if_pos h, UInt8.ofNat_toNat]

theorem encodeChar_two {a b : UInt8} {x : Nat} (hlow : 0xC2 ≤ a.toNat) (hhigh : a.toNat < 0xE0)
    (hb : tail? b = some x) : encodeChar (Char.ofNat ((a.toNat - 0xC0) * 64 + x)) = [a, b] := by
  obtain ⟨hx, rfl⟩ := tail?_eq_some_iff.mp hb
  have hn := toNat_ofNat (n := (a.toNat - 0xC0) * 64 + x) (.inl (by omega))
  have hfirst : 0xC0 + ((a.toNat - 0xC0) * 64 + x) / 64 = a.toNat := by omega
  have hlast : ((a.toNat - 0xC0) * 64 + x) % 64 = x := by omega
  unfold encodeChar
  rw [hn, if_neg (by omega), if_pos (by omega), hfirst, hlast, UInt8.ofNat_toNat]

theorem encodeChar_three {a b c : UInt8} {x y : Nat} {ch : Char} (hlow : 0xE0 ≤ a.toNat)
    (hhigh : a.toNat < 0xF0) (hb : tail? b = some x) (hc : tail? c = some y)
    (hch : scalar? 0x800 (((a.toNat - 0xE0) * 64 + x) * 64 + y) = some ch) :
    encodeChar ch = [a, b, c] := by
  obtain ⟨hx, rfl⟩ := tail?_eq_some_iff.mp hb
  obtain ⟨hy, rfl⟩ := tail?_eq_some_iff.mp hc
  obtain ⟨hn, hleast⟩ := scalar?_eq_some_iff.mp hch
  have hfirst : 0xE0 + (((a.toNat - 0xE0) * 64 + x) * 64 + y) / 4096 = a.toNat := by omega
  have hmiddle : (((a.toNat - 0xE0) * 64 + x) * 64 + y) / 64 % 64 = x := by omega
  have hlast : (((a.toNat - 0xE0) * 64 + x) * 64 + y) % 64 = y := by omega
  unfold encodeChar
  rw [hn, if_neg (by omega), if_neg (by omega), if_pos (by omega), hfirst, hmiddle, hlast,
    UInt8.ofNat_toNat]

theorem encodeChar_four {a b c d : UInt8} {x y z : Nat} {ch : Char} (hlow : 0xF0 ≤ a.toNat)
    (hhigh : a.toNat < 0xF5) (hb : tail? b = some x) (hc : tail? c = some y)
    (hd : tail? d = some z)
    (hch : scalar? 0x10000 ((((a.toNat - 0xF0) * 64 + x) * 64 + y) * 64 + z) = some ch) :
    encodeChar ch = [a, b, c, d] := by
  obtain ⟨hx, rfl⟩ := tail?_eq_some_iff.mp hb
  obtain ⟨hy, rfl⟩ := tail?_eq_some_iff.mp hc
  obtain ⟨hz, rfl⟩ := tail?_eq_some_iff.mp hd
  obtain ⟨hn, hleast⟩ := scalar?_eq_some_iff.mp hch
  generalize hm : (((a.toNat - 0xF0) * 64 + x) * 64 + y) * 64 + z = m at hn hleast
  have hfirst : 0xF0 + m / 262144 = a.toNat := by omega
  have hsecond : m / 4096 % 64 = x := by omega
  have hthird : m / 64 % 64 = y := by omega
  have hlast : m % 64 = z := by omega
  unfold encodeChar
  rw [hn, if_neg (by omega), if_neg (by omega), if_neg (by omega), hfirst, hsecond, hthird, hlast,
    UInt8.ofNat_toNat]

/-- A character in front of what was read. -/
theorem exists_encode_cons {read t : Text} {bytes rest : List UInt8} {c : Char}
    (h : ∃ u, t = (c :: read).reverse ++ u ∧ encode u = rest) (hc : encodeChar c ++ rest = bytes) :
    ∃ u, t = read.reverse ++ u ∧ encode u = bytes := by
  obtain ⟨u, ht, hu⟩ := h
  refine ⟨c :: u, ?_, ?_⟩
  · rw [ht, List.reverse_cons, List.append_assoc, List.singleton_append]
  · rw [encode_cons, hu, hc]

theorem exists_of_decodeLoop {read t : Text} {bytes : List UInt8}
    (h : decodeLoop read bytes = some t) : ∃ u, t = read.reverse ++ u ∧ encode u = bytes := by
  fun_induction decodeLoop read bytes generalizing t with
  | case1 read =>
    cases h
    exact ⟨[], (List.append_nil _).symm, rfl⟩
  | case2 =>
    rename_i read a rest n h1 ih
    apply exists_encode_cons (ih h)
    rw [encodeChar_one h1, List.singleton_append]
  | case4 =>
    rename_i read a n h1 h2 h3 b rest x hb ih
    apply exists_encode_cons (ih h)
    rw [encodeChar_two (by omega) h3 hb, List.cons_append, List.singleton_append]
  | case7 =>
    rename_i read a n h1 h2 h3 h4 b c rest x y hc hb ch hch ih
    apply exists_encode_cons (ih h)
    rw [encodeChar_three (by omega) h4 hb hc hch, List.cons_append, List.cons_append,
      List.singleton_append]
  | case11 =>
    rename_i read a n h1 h2 h3 h4 h5 b c d rest x y z hd hc hb ch hch ih
    apply exists_encode_cons (ih h)
    rw [encodeChar_four (by omega) h5 hb hc hd hch, List.cons_append, List.cons_append,
      List.cons_append, List.singleton_append]
  -- Everything else is refused.
  | _ => cases h

/-- Bytes are read as a text if and only if they are the bytes of that text. -/
theorem decode?_eq_some_iff {bytes : List UInt8} {t : Text} :
    decode? bytes = some t ↔ encode t = bytes := by
  constructor
  · intro h
    obtain ⟨u, rfl, hu⟩ := exists_of_decodeLoop h
    exact hu
  · rintro rfl
    exact decodeLoop_encode [] t

end Text.Utf8

namespace Content

open Text.Utf8

theorem length_bytes (c : Content) : c.bytes.length = c.size := by
  unfold bytes size
  rw [List.length_flatten, List.map_replicate, List.sum_replicate_nat, Nat.mul_comm]

theorem encode_repeatText (t : Text) (n : Nat) (rest : Text) :
    encode (repeatText t n rest) = (List.replicate n (encode t)).flatten ++ encode rest := by
  induction n generalizing rest with
  | zero => rfl
  | succ n ih =>
    rw [repeatText, ih, encode_append, List.replicate_succ', List.flatten_append,
      List.append_assoc]
    simp

/-- The text of a file is the one that has its bytes; a piece that is well-formed by itself need not
be read more than once. -/
theorem text?_eq_some_iff {c : Content} {t : Text} : c.text? = some t ↔ encode t = c.bytes := by
  unfold text?
  split
  · rename_i piece hpiece
    rw [← decode?_eq_some_iff, Option.some.injEq]
    have hbytes : encode (repeatText piece c.times []) = c.bytes := by
      rw [encode_repeatText, decode?_eq_some_iff.mp hpiece]
      exact List.append_nil _
    rw [decode?_eq_some_iff.mpr hbytes, Option.some.injEq]
  · exact decode?_eq_some_iff

theorem text?_eq_none_iff {c : Content} : c.text? = none ↔ ∀ t, encode t ≠ c.bytes := by
  rw [Option.eq_none_iff_forall_ne_some]
  simp only [ne_eq, text?_eq_some_iff]

/-- The text that a file was made of. -/
theorem text?_ofText (t : Text) : (ofText t).text? = some t := by
  rw [text?_eq_some_iff]
  exact (List.append_nil _).symm

end Content

end DocLint
