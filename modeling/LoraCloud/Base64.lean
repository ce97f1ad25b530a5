import LoraCloud.Basic

/-!
# Standard base64

`base64.StdEncoding.DecodeString`, which the integration applies to the GNSS payload and to
each access point's MAC address. The decoder skips `\r` and `\n` anywhere, reads four
characters at a time, accepts `=` padding only in the last quantum, and (not being strict)
ignores the unused bits of a padded quantum. Go reports the offset of a corrupt byte; the model
only reports that the input is corrupt.

`encode` is the padded standard encoding. `decodeString_encodeToString` is the round trip:
decoding inverts encoding on every byte string. `decodeString_length` says what is accepted:
whole quanta with at most two padding characters, decoding to three bytes a quantum less one
per padding character.
-/

namespace LoraCloud.Base64

/-- The alphabet of `StdEncoding`. -/
def encodeStd : List Char :=
  "ABCDEFGHIJKLMNOPQRSTUVWXYZabcdefghijklmnopqrstuvwxyz0123456789+/".toList

/-- `StdEncoding.decodeMap`: a character's index in the alphabet, if it has one. -/
def decodeChar (c : Char) : Option Nat := encodeStd.indexOf? c

def encodeChar (n : Nat) : Char := encodeStd.getD n 'A'

/-- The three bytes of a quantum of four six-bit values, as `decodeQuantum` assembles them:
`val := x<<18 | y<<12 | z<<6 | w`, then `byte(val>>16)`, `byte(val>>8)`, `byte(val)`. -/
def quantumBytes (x y z w : Nat) : List UInt8 :=
  let val := x * 262144 + y * 4096 + z * 64 + w
  [UInt8.ofNat (val / 65536), UInt8.ofNat (val / 256), UInt8.ofNat val]

/-- One quantum `a b c d`. Padding `==` or `=` is accepted only when the quantum is the
`final` one; a padded quantum gives one or two bytes. -/
def decodeQuantum (a b c d : Char) (final : Bool) : Option (List UInt8) :=
  (decodeChar a).bind fun x => (decodeChar b).bind fun y =>
    if final ∧ c = '=' ∧ d = '=' then some ((quantumBytes x y 0 0).take 1)
    else (decodeChar c).bind fun z =>
      if final ∧ d = '=' then some ((quantumBytes x y z 0).take 2)
      else (decodeChar d).map fun w => quantumBytes x y z w

/-- Newline-free input, quantum by quantum; a trailing partial quantum is corrupt. -/
def decodeQuanta : List Char → Option (List UInt8)
  | [] => some []
  | a :: b :: c :: d :: rest =>
    (decodeQuantum a b c d rest.isEmpty).bind fun q => (decodeQuanta rest).map (q ++ ·)
  | _ => none

/-- `StdEncoding.DecodeString`; `none` is a `CorruptInputError`. -/
def decodeString (s : String) : Option (List UInt8) :=
  decodeQuanta (s.toList.filter fun c => c != '\r' && c != '\n')

/-- Three bytes as four characters. -/
def encodeQuantum (a b c : Nat) : List Char :=
  let val := a * 65536 + b * 256 + c
  [encodeChar (val / 262144 % 64), encodeChar (val / 4096 % 64),
    encodeChar (val / 64 % 64), encodeChar (val % 64)]

/-- The padded standard encoding. -/
def encode : List UInt8 → List Char
  | [] => []
  | [a] => (encodeQuantum a.toNat 0 0).take 2 ++ ['=', '=']
  | [a, b] => (encodeQuantum a.toNat b.toNat 0).take 3 ++ ['=']
  | a :: b :: c :: rest => encodeQuantum a.toNat b.toNat c.toNat ++ encode rest

/-- `StdEncoding.EncodeToString`. -/
def encodeToString (src : List UInt8) : String := ⟨encode src⟩

-- ---------------------------------------------------------------------------
-- The alphabet table
-- ---------------------------------------------------------------------------

theorem decodeChar_encodeChar_all : ∀ n, n < 64 → decodeChar (encodeChar n) = some n := by
  decide

theorem encodeChar_special_all :
    ∀ n, n < 64 → encodeChar n ≠ '=' ∧ encodeChar n ≠ '\r' ∧ encodeChar n ≠ '\n' := by
  decide

@[simp] theorem decodeChar_encodeChar_mod (n : Nat) :
    decodeChar (encodeChar (n % 64)) = some (n % 64) :=
  decodeChar_encodeChar_all _ (Nat.mod_lt _ (by decide))

@[simp] theorem encodeChar_mod_ne_pad (n : Nat) : encodeChar (n % 64) ≠ '=' :=
  (encodeChar_special_all _ (Nat.mod_lt _ (by decide))).1

-- ---------------------------------------------------------------------------
-- The round trip
-- ---------------------------------------------------------------------------

theorem encodeChar_mod_keep (n : Nat) :
    (encodeChar (n % 64) != '\r' && encodeChar (n % 64) != '\n') = true := by
  obtain ⟨-, hr, hl⟩ := encodeChar_special_all _ (Nat.mod_lt n (by decide))
  simp [hr, hl]

theorem filter_encode (bs : List UInt8) :
    (encode bs).filter (fun c => c != '\r' && c != '\n') = encode bs := by
  induction bs using encode.induct with
  | case1 => rfl
  | case2 a => simp [encode, encodeQuantum, List.filter_cons, encodeChar_mod_keep]
  | case3 a b => simp [encode, encodeQuantum, List.filter_cons, encodeChar_mod_keep]
  | case4 a b c rest ih =>
    simp [encode, encodeQuantum, List.filter_cons, encodeChar_mod_keep, ih]

theorem quantumBytes_one (a : UInt8) :
    (quantumBytes ((a.toNat * 65536 + 0 * 256 + 0) / 262144 % 64)
      ((a.toNat * 65536 + 0 * 256 + 0) / 4096 % 64) 0 0).take 1 = [a] := by
  have ha : a.toNat < 256 := a.toNat_lt_size
  simp only [quantumBytes, List.take_succ_cons, List.take_zero]
  exact congrArg (· :: []) (uint8_ofNat_eq (by omega))

theorem quantumBytes_two (a b : UInt8) :
    (quantumBytes ((a.toNat * 65536 + b.toNat * 256 + 0) / 262144 % 64)
      ((a.toNat * 65536 + b.toNat * 256 + 0) / 4096 % 64)
      ((a.toNat * 65536 + b.toNat * 256 + 0) / 64 % 64) 0).take 2 = [a, b] := by
  have ha : a.toNat < 256 := a.toNat_lt_size
  have hb : b.toNat < 256 := b.toNat_lt_size
  simp only [quantumBytes, List.take_succ_cons, List.take_zero, List.cons.injEq, and_true]
  exact ⟨uint8_ofNat_eq (by omega), uint8_ofNat_eq (by omega)⟩

theorem quantumBytes_three (a b c : UInt8) (rest : List UInt8) :
    quantumBytes ((a.toNat * 65536 + b.toNat * 256 + c.toNat) / 262144 % 64)
      ((a.toNat * 65536 + b.toNat * 256 + c.toNat) / 4096 % 64)
      ((a.toNat * 65536 + b.toNat * 256 + c.toNat) / 64 % 64)
      ((a.toNat * 65536 + b.toNat * 256 + c.toNat) % 64) ++ rest = a :: b :: c :: rest := by
  have ha : a.toNat < 256 := a.toNat_lt_size
  have hb : b.toNat < 256 := b.toNat_lt_size
  have hc : c.toNat < 256 := c.toNat_lt_size
  simp only [quantumBytes, List.cons_append, List.nil_append, List.cons.injEq, and_true]
  exact ⟨uint8_ofNat_eq (by omega), uint8_ofNat_eq (by omega), uint8_ofNat_eq (by omega)⟩

theorem decodeQuanta_encode (bs : List UInt8) : decodeQuanta (encode bs) = some bs := by
  induction bs using encode.induct with
  | case1 => rfl
  | case2 a =>
    simp only [encode, encodeQuantum, List.take_succ_cons, List.take_zero, List.cons_append,
      List.nil_append, decodeQuanta, List.isEmpty_nil, decodeQuantum, decodeChar_encodeChar_mod,
      Option.some_bind, and_self, ↓reduceIte, Option.map_some', List.append_nil, quantumBytes_one]
  | case3 a b =>
    simp only [encode, encodeQuantum, List.take_succ_cons, List.take_zero, List.cons_append,
      List.nil_append, decodeQuanta, List.isEmpty_nil, decodeQuantum, decodeChar_encodeChar_mod,
      Option.some_bind, encodeChar_mod_ne_pad, true_and, false_and, and_self, ↓reduceIte,
      Option.map_some', List.append_nil, quantumBytes_two]
  | case4 a b c rest ih =>
    simp only [encode, encodeQuantum, List.cons_append, decodeQuanta, decodeQuantum,
      decodeChar_encodeChar_mod, Option.some_bind, encodeChar_mod_ne_pad, false_and, and_false,
      ↓reduceIte, Option.map_some', List.append_eq, List.nil_append, ih, quantumBytes_three]

/-- Decoding inverts encoding. -/
theorem decodeString_encodeToString (bs : List UInt8) :
    decodeString (encodeToString bs) = some bs := by
  exact (congrArg decodeQuanta (filter_encode bs)).trans (decodeQuanta_encode bs)

-- ---------------------------------------------------------------------------
-- What the decoder accepts
-- ---------------------------------------------------------------------------

theorem decodeChar_pad : decodeChar '=' = none := by decide

theorem decodeChar_ne_pad {c : Char} {n : Nat} (h : decodeChar c = some n) : c ≠ '=' := by
  rintro rfl
  simp [decodeChar_pad] at h

theorem decodeQuantum_length {a b c d : Char} {final : Bool} {q : List UInt8}
    (h : decodeQuantum a b c d final = some q) :
    q.length + [a, b, c, d].count '=' = 3 ∧ 1 ≤ q.length ∧ (final = false → q.length = 3) := by
  unfold decodeQuantum at h
  obtain ⟨x, hx, h⟩ := Option.bind_eq_some.mp h
  obtain ⟨y, hy, h⟩ := Option.bind_eq_some.mp h
  have ha := decodeChar_ne_pad hx
  have hb := decodeChar_ne_pad hy
  by_cases h1 : final = true ∧ c = '=' ∧ d = '='
  · obtain ⟨rfl, rfl, rfl⟩ := h1
    rw [if_pos ⟨rfl, rfl, rfl⟩, Option.some.injEq] at h
    subst h
    simp [quantumBytes, List.count_cons, ha, hb]
  rw [if_neg h1] at h
  obtain ⟨z, hz, h⟩ := Option.bind_eq_some.mp h
  have hc := decodeChar_ne_pad hz
  by_cases h2 : final = true ∧ d = '='
  · obtain ⟨rfl, rfl⟩ := h2
    rw [if_pos ⟨rfl, rfl⟩, Option.some.injEq] at h
    subst h
    simp [quantumBytes, List.count_cons, ha, hb, hc]
  rw [if_neg h2] at h
  obtain ⟨w, hw, rfl⟩ := Option.map_eq_some'.mp h
  simp [quantumBytes, List.count_cons, ha, hb, hc, decodeChar_ne_pad hw]

theorem decodeQuanta_length {cs : List Char} {bs : List UInt8} (h : decodeQuanta cs = some bs) :
    cs.length % 4 = 0 ∧ cs.count '=' ≤ 2 ∧ bs.length + cs.count '=' = 3 * (cs.length / 4) := by
  induction cs using decodeQuanta.induct generalizing bs with
  | case1 => simp [(Option.some.inj h).symm]
  | case2 a b c d rest ih =>
    simp only [decodeQuanta] at h
    obtain ⟨q, hq, h⟩ := Option.bind_eq_some.mp h
    obtain ⟨bs', hbs', rfl⟩ := Option.map_eq_some'.mp h
    obtain ⟨hlen, h1, hfin⟩ := decodeQuantum_length hq
    obtain ⟨hm, hpad, hrest⟩ := ih hbs'
    have hcount : (a :: b :: c :: d :: rest).count '=' = [a, b, c, d].count '=' + rest.count '=' :=
      List.count_append '=' [a, b, c, d] rest
    have hlast : rest.count '=' = 0 ∨ q.length = 3 := by
      cases rest with
      | nil => exact .inl rfl
      | cons => exact .inr (hfin rfl)
    simp only [List.length_cons, List.length_append, hcount]
    omega
  | case3 cs h0 h4 =>
    unfold decodeQuanta at h
    split at h
    · simp_all
    · exact (h4 _ _ _ _ _ rfl).elim
    · exact nomatch h

/-- `decodeQuanta_length` for the input as the decoder sees it, without `\r` and `\n`. -/
theorem decodeString_length {s : String} {bs : List UInt8} (h : decodeString s = some bs) :
    let cs := s.toList.filter fun c => c != '\r' && c != '\n'
    cs.length % 4 = 0 ∧ cs.count '=' ≤ 2 ∧ bs.length + cs.count '=' = 3 * (cs.length / 4) :=
  decodeQuanta_length h

theorem decodeString_length_padded :
    decodeString "AQID\nBA==" = some [1, 2, 3, 4] ∧
      let cs := "AQID\nBA==".toList.filter fun c => c != '\r' && c != '\n'
      cs.length % 4 = 0 ∧ cs.count '=' ≤ 2 ∧
        ([1, 2, 3, 4] : List UInt8).length + cs.count '=' = 3 * (cs.length / 4) :=
  ⟨by decide, decodeString_length (by decide)⟩

end LoraCloud.Base64
