import Mathlib.Data.List.Basic

/-! Base64: three bytes as four values below 64, each written as one sign. Decoding is
the forgiving one of browsers. -/

namespace Base64

def sign (value : Nat) : Char :=
  if value < 26 then Char.ofNat (65 + value)
  else if value < 52 then Char.ofNat (71 + value)
  else if value < 62 then Char.ofNat (value - 4)
  else if value = 62 then '+'
  else '/'

def value (sign : Char) : Option Nat :=
  let code := sign.toNat
  if 65 ≤ code ∧ code ≤ 90 then some (code - 65)
  else if 97 ≤ code ∧ code ≤ 122 then some (code - 71)
  else if 48 ≤ code ∧ code ≤ 57 then some (code + 4)
  else if sign = '+' then some 62
  else if sign = '/' then some 63
  else none

/-- The six-bit values of the bytes, the last one filled up with zeros. -/
def values : List UInt8 → List Nat
  | [] => []
  | [first] => [first.toNat / 4, first.toNat % 4 * 16]
  | [first, second] => [first.toNat / 4, first.toNat % 4 * 16 + second.toNat / 16, second.toNat % 16 * 4]
  | first :: second :: third :: bytes =>
    first.toNat / 4 :: (first.toNat % 4 * 16 + second.toNat / 16) :: (second.toNat % 16 * 4 + third.toNat / 64) ::
      third.toNat % 64 :: values bytes

/-- The bytes of six-bit values; bits that fill no byte are dropped. -/
def bytes : List Nat → List UInt8
  | first :: second :: third :: fourth :: values =>
    UInt8.ofNat (first * 4 + second / 16) :: UInt8.ofNat (second % 16 * 16 + third / 4) ::
      UInt8.ofNat (third % 4 * 64 + fourth) :: bytes values
  | [first, second, third] => [UInt8.ofNat (first * 4 + second / 16), UInt8.ofNat (second % 16 * 16 + third / 4)]
  | [first, second] => [UInt8.ofNat (first * 4 + second / 16)]
  | _ => []

example : values [77, 97, 110] = [19, 22, 5, 46] ∧ bytes [19, 22, 5, 46] = [77, 97, 110] := by simp [values, bytes]

/-- The padded text of the bytes. -/
def encode (content : List UInt8) : List Char :=
  (values content).map sign ++ List.replicate ((4 - (values content).length % 4) % 4) '='

def isAsciiSpace (c : Char) : Bool := c == '\t' || c == '\n' || c == '\x0C' || c == '\r' || c == ' '

/-- Up to two signs of padding fall off a text of whole groups. -/
def stripPadding (text : List Char) : List Char :=
  if text.length % 4 ≠ 0 then text
  else
    match text.reverse with
    | '=' :: '=' :: front => front.reverse
    | '=' :: front => front.reverse
    | _ => text

/-- The browsers' `atob`: spaces are ignored, padding may be missing. -/
def atob (text : List Char) : Option (List UInt8) :=
  let content := stripPadding (text.filter fun c => !isAsciiSpace c)
  if content.length % 4 = 1 then none else (content.mapM value).map bytes

theorem sign_value : ∀ number : Fin 64, value (sign number) = some number.val ∧ isAsciiSpace (sign number) = false ∧
    sign number ≠ '=' := by
  decide

theorem values_lt (content : List UInt8) : ∀ number ∈ values content, number < 64 := by
  induction content using values.induct with
  | case1 => simp [values]
  | case2 first =>
    have below := first.toNat_lt
    simp only [values, List.mem_cons, List.not_mem_nil, or_false, forall_eq_or_imp, forall_eq]
    omega
  | case3 first second =>
    have below := first.toNat_lt
    have below' := second.toNat_lt
    simp only [values, List.mem_cons, List.not_mem_nil, or_false, forall_eq_or_imp, forall_eq]
    omega
  | case4 first second third content ih =>
    have below := first.toNat_lt
    have below' := second.toNat_lt
    have below'' := third.toNat_lt
    simp only [values, List.mem_cons, forall_eq_or_imp]
    exact ⟨by omega, by omega, by omega, by omega, ih⟩

theorem ofNat_eq {number : Nat} {byte : UInt8} (same : number = byte.toNat) : UInt8.ofNat number = byte := by
  rw [same, UInt8.ofNat_toNat]

theorem bytes_values (content : List UInt8) : bytes (values content) = content := by
  induction content using values.induct with
  | case1 => rfl
  | case2 first =>
    simp only [values, bytes, List.cons.injEq, and_true]
    exact ofNat_eq (by omega)
  | case3 first second =>
    have below := second.toNat_lt
    simp only [values, bytes, List.cons.injEq, and_true]
    exact ⟨ofNat_eq (by omega), ofNat_eq (by omega)⟩
  | case4 first second third content ih =>
    have below := second.toNat_lt
    have below' := third.toNat_lt
    simp only [values, bytes, ih, List.cons.injEq, and_true]
    exact ⟨ofNat_eq (by omega), ofNat_eq (by omega), ofNat_eq (by omega)⟩

theorem values_length (content : List UInt8) : (values content).length % 4 ≠ 1 := by
  induction content using values.induct with
  | case1 => simp [values]
  | case2 first => simp [values]
  | case3 first second => simp [values]
  | case4 first second third content ih =>
    simp only [values, List.length_cons]
    omega

theorem mapM_sign {numbers : List Nat} (small : ∀ number ∈ numbers, number < 64) :
    (numbers.map sign).mapM value = some numbers := by
  induction numbers with
  | nil => rfl
  | cons number numbers ih =>
    have read := (sign_value ⟨number, small number (by simp)⟩).1
    have later := ih fun other member => small other (by simp [member])
    simp only [List.map_cons, List.mapM_cons, read, later]
    rfl

theorem stripPadding_append {front : List Char} (free : '=' ∉ front) (length : front.length % 4 ≠ 1) :
    stripPadding (front ++ List.replicate ((4 - front.length % 4) % 4) '=') = front := by
  have whole : (front ++ List.replicate ((4 - front.length % 4) % 4) '=').length % 4 = 0 := by
    simp only [List.length_append, List.length_replicate]
    omega
  rw [stripPadding, if_neg (by omega), List.reverse_append, List.reverse_replicate]
  have count : (4 - front.length % 4) % 4 = 0 ∨ (4 - front.length % 4) % 4 = 1 ∨ (4 - front.length % 4) % 4 = 2 := by omega
  have last : ∀ rest, front.reverse ≠ '=' :: rest := by
    intro rest same
    exact free (List.mem_reverse.mp (same ▸ List.mem_cons_self))
  rcases count with none | one | two
  · rw [none]
    simp only [List.replicate_zero, List.nil_append, List.append_nil]
    split
    next rest same => exact absurd same (last _)
    next rest same => exact absurd same (last _)
    next => rfl
  · rw [one]
    simp only [List.replicate_one, List.singleton_append]
    exact List.reverse_reverse front
  · rw [two]
    change List.reverse front.reverse = front
    exact List.reverse_reverse front

theorem mem_encode {content : List UInt8} {c : Char} (member : c ∈ encode content) :
    (∃ number : Fin 64, c = sign number) ∨ c = '=' := by
  rcases List.mem_append.mp member with text | padding
  · obtain ⟨number, source, rfl⟩ := List.mem_map.mp text
    exact Or.inl ⟨⟨number, values_lt content number source⟩, rfl⟩
  · exact Or.inr (List.eq_of_mem_replicate padding)

/-- What is encoded is decoded. -/
theorem atob_encode (content : List UInt8) : atob (encode content) = some content := by
  have spaceless : (encode content).filter (fun c => !isAsciiSpace c) = encode content := by
    refine List.filter_eq_self.mpr fun c member => ?_
    rcases mem_encode member with ⟨number, rfl⟩ | rfl
    · simp [(sign_value number).2.1]
    · rfl
  have free : '=' ∉ (values content).map sign := by
    intro member
    obtain ⟨number, source, same⟩ := List.mem_map.mp member
    exact (sign_value ⟨number, values_lt content number source⟩).2.2 same
  have length : ((values content).map sign).length % 4 ≠ 1 := by simpa using values_length content
  have stripped : stripPadding (encode content) = (values content).map sign := by
    simpa [encode] using stripPadding_append free length
  rw [atob, spaceless, stripped, if_neg length, mapM_sign (values_lt content), Option.map_some, bytes_values]

/-! ### Canonical texts -/

/-- Groups of four signs, the last of which may be padded. -/
inductive Grouped : List Char → Prop
  | done : Grouped []
  | one {first second : Char} (sign : (value first).isSome) (sign' : (value second).isSome) : Grouped [first, second, '=', '=']
  | two {first second third : Char} (sign : (value first).isSome) (sign' : (value second).isSome)
      (sign'' : (value third).isSome) : Grouped [first, second, third, '=']
  | group {first second third fourth : Char} {rest : List Char} (signs : ∀ c ∈ [first, second, third, fourth], (value c).isSome)
      (more : Grouped rest) : Grouped (first :: second :: third :: fourth :: rest)

theorem Grouped.signs {text : List Char} (grouped : Grouped text) : ∀ c ∈ text, (value c).isSome ∨ c = '=' := by
  induction grouped with
  | done => simp
  | one sign sign' => simp [sign, sign']
  | two sign sign' sign'' => simp [sign, sign', sign'']
  | group signs more ih =>
    intro c member
    rcases List.mem_append.mp (show c ∈ [_, _, _, _] ++ _ from member) with here | later
    · exact .inl (signs c here)
    · exact ih c later

/-- The bits of the last sign that fill no byte. -/
def spareBits : List Char → Nat
  | [_, second, '=', '='] => (value second).getD 0 % 16
  | [_, _, third, '='] => (value third).getD 0 % 4
  | _ :: _ :: _ :: _ :: rest => spareBits rest
  | _ => 0

theorem value_sign {c : Char} {number : Nat} (read : value c = some number) : number < 64 ∧ sign number = c := by
  have code (d : Char) : c = d ↔ c.toNat = d.toNat := Char.toNat_inj.symm
  have same : Char.ofNat c.toNat = c := Char.ofNat_toNat c
  rw [value] at read
  split_ifs at read with upper lower digit plus slash
  · obtain rfl := Option.some.inj read
    refine ⟨by omega, ?_⟩
    rw [sign, if_pos (by omega), Nat.add_sub_cancel' upper.1, same]
  · obtain rfl := Option.some.inj read
    refine ⟨by omega, ?_⟩
    rw [sign, if_neg (by omega), if_pos (by omega), Nat.add_sub_cancel' (by omega), same]
  · obtain rfl := Option.some.inj read
    refine ⟨by omega, ?_⟩
    rw [sign, if_neg (by omega), if_neg (by omega), if_pos (by omega), Nat.add_sub_cancel, same]
  · obtain rfl := Option.some.inj read
    exact ⟨by decide, plus ▸ rfl⟩
  · obtain rfl := Option.some.inj read
    exact ⟨by decide, slash ▸ rfl⟩

theorem encode_group (first second third : UInt8) (content : List UInt8) :
    encode (first :: second :: third :: content) =
      sign (first.toNat / 4) :: sign (first.toNat % 4 * 16 + second.toNat / 16) ::
        sign (second.toNat % 16 * 4 + third.toNat / 64) :: sign (third.toNat % 64) :: encode content := by
  simp only [encode, values, List.map_cons, List.length_cons, List.cons_append, Nat.add_mod_right, Nat.add_assoc]

theorem sign_injective {first second : Nat} (small : first < 64) (small' : second < 64) (same : sign first = sign second) :
    first = second := by
  have read := (sign_value ⟨first, small⟩).1
  rw [same, (sign_value ⟨second, small'⟩).1] at read
  exact (Option.some.inj read).symm

theorem sign_ne_padding {number : Nat} (small : number < 64) : sign number ≠ '=' := (sign_value ⟨number, small⟩).2.2

/-- A sign is the writing of a number below 64. -/
theorem signed {c : Char} (isSign : (value c).isSome) : ∃ number < 64, value c = some number ∧ c = sign number := by
  obtain ⟨number, read⟩ := Option.isSome_iff_exists.mp isSign
  obtain ⟨small, same⟩ := value_sign read
  exact ⟨number, small, read, same.symm⟩

theorem spareBits_group {first second third fourth : Char} {rest : List Char} (sign : (value fourth).isSome) :
    spareBits (first :: second :: third :: fourth :: rest) = spareBits rest := by
  have unpadded : fourth ≠ '=' := by
    rintro rfl
    cases sign
  rw [spareBits]
  · exact fun _ same _ => unpadded same
  · exact fun same _ => unpadded same

/-- Two signs hold a byte and four bits. -/
theorem encode_one {high low : Nat} (small : high < 64) (small' : low < 64) :
    (∃ content, encode content = [sign high, sign low, '=', '=']) ↔ low % 16 = 0 := by
  constructor
  · intro ⟨content, same⟩
    match content with
    | [] => cases same
    | [byte] =>
      have low' := sign_injective (by omega) small' (List.cons.inj (List.cons.inj same).2).1
      omega
    | [byte, byte'] =>
      have padding := (List.cons.inj (List.cons.inj (List.cons.inj same).2).2).1
      exact absurd padding (sign_ne_padding (by omega))
    | byte :: byte' :: byte'' :: content =>
      rw [encode_group] at same
      have below := byte''.toNat_lt
      have padding := (List.cons.inj (List.cons.inj (List.cons.inj same).2).2).1
      exact absurd padding (sign_ne_padding (by omega))
  · intro whole
    refine ⟨[UInt8.ofNat (high * 4 + low / 16)], ?_⟩
    have byte := @UInt8.toNat_ofNat_of_lt' (high * 4 + low / 16) (by change _ < 256; omega)
    change [sign _, sign _, '=', '='] = _
    rw [byte, show (high * 4 + low / 16) / 4 = high by omega, show (high * 4 + low / 16) % 4 * 16 = low by omega]

/-- Three signs hold two bytes and two bits. -/
theorem encode_two {high middle low : Nat} (small : high < 64) (small' : middle < 64) (small'' : low < 64) :
    (∃ content, encode content = [sign high, sign middle, sign low, '=']) ↔ low % 4 = 0 := by
  constructor
  · intro ⟨content, same⟩
    match content with
    | [] => cases same
    | [byte] =>
      have padding := (List.cons.inj (List.cons.inj (List.cons.inj same).2).2).1
      exact absurd padding.symm (sign_ne_padding small'')
    | [byte, byte'] =>
      have low' := sign_injective (by omega) small'' (List.cons.inj (List.cons.inj (List.cons.inj same).2).2).1
      omega
    | byte :: byte' :: byte'' :: content =>
      rw [encode_group] at same
      have padding := (List.cons.inj (List.cons.inj (List.cons.inj (List.cons.inj same).2).2).2).1
      exact absurd padding (sign_ne_padding (by omega))
  · intro whole
    refine ⟨[UInt8.ofNat (high * 4 + middle / 16), UInt8.ofNat (middle % 16 * 16 + low / 4)], ?_⟩
    have byte := @UInt8.toNat_ofNat_of_lt' (high * 4 + middle / 16) (by change _ < 256; omega)
    have byte' := @UInt8.toNat_ofNat_of_lt' (middle % 16 * 16 + low / 4) (by change _ < 256; omega)
    change [sign _, sign _, sign _, '='] = _
    rw [byte, byte', show (high * 4 + middle / 16) / 4 = high by omega,
      show (high * 4 + middle / 16) % 4 * 16 + (middle % 16 * 16 + low / 4) / 16 = middle by omega,
      show (middle % 16 * 16 + low / 4) % 16 * 4 = low by omega]

/-- Four signs hold three bytes. -/
theorem encode_signs {first second third fourth : Nat} (small : first < 64) (small' : second < 64) (small'' : third < 64)
    (below : fourth < 64) (rest : List Char) :
    (∃ content, encode content = sign first :: sign second :: sign third :: sign fourth :: rest) ↔
      ∃ content, encode content = rest := by
  constructor
  · intro ⟨content, same⟩
    match content with
    | [] => cases same
    | [byte] =>
      have padding := (List.cons.inj (List.cons.inj (List.cons.inj same).2).2).1
      exact absurd padding.symm (sign_ne_padding small'')
    | [byte, byte'] =>
      have padding := (List.cons.inj (List.cons.inj (List.cons.inj (List.cons.inj same).2).2).2).1
      exact absurd padding.symm (sign_ne_padding below)
    | byte :: byte' :: byte'' :: content =>
      rw [encode_group] at same
      exact ⟨content, (List.cons.inj (List.cons.inj (List.cons.inj (List.cons.inj same).2).2).2).2⟩
  · intro ⟨content, same⟩
    refine ⟨UInt8.ofNat (first * 4 + second / 16) :: UInt8.ofNat (second % 16 * 16 + third / 4) ::
      UInt8.ofNat (third % 4 * 64 + fourth) :: content, ?_⟩
    have byte := @UInt8.toNat_ofNat_of_lt' (first * 4 + second / 16) (by change _ < 256; omega)
    have byte' := @UInt8.toNat_ofNat_of_lt' (second % 16 * 16 + third / 4) (by change _ < 256; omega)
    have byte'' := @UInt8.toNat_ofNat_of_lt' (third % 4 * 64 + fourth) (by change _ < 256; omega)
    rw [encode_group, same, byte, byte', byte'', show (first * 4 + second / 16) / 4 = first by omega,
      show (first * 4 + second / 16) % 4 * 16 + (second % 16 * 16 + third / 4) / 16 = second by omega,
      show (second % 16 * 16 + third / 4) % 16 * 4 + (third % 4 * 64 + fourth) / 64 = third by omega,
      show (third % 4 * 64 + fourth) % 64 = fourth by omega]

/-- A text of groups is an encoding exactly where it wastes no bit. -/
theorem encode_iff {text : List Char} (grouped : Grouped text) : (∃ content, encode content = text) ↔ spareBits text = 0 := by
  induction grouped with
  | done => exact ⟨fun _ => rfl, fun _ => ⟨[], rfl⟩⟩
  | one isSign isSign' =>
    obtain ⟨high, small, -, rfl⟩ := signed isSign
    obtain ⟨low, small', read, rfl⟩ := signed isSign'
    rw [encode_one small small', spareBits, read, Option.getD_some]
  | two isSign isSign' isSign'' =>
    obtain ⟨high, small, -, rfl⟩ := signed isSign
    obtain ⟨middle, small', -, rfl⟩ := signed isSign'
    obtain ⟨low, small'', read, rfl⟩ := signed isSign''
    rw [encode_two small small' small'', spareBits, read, Option.getD_some]
    exact fun padding => sign_ne_padding small'' padding
  | @group first second third fourth rest signs more ih =>
    rw [spareBits_group (signs fourth (by simp)), ← ih]
    obtain ⟨_, small, -, rfl⟩ := signed (signs first (by simp))
    obtain ⟨_, small', -, rfl⟩ := signed (signs second (by simp))
    obtain ⟨_, small'', -, rfl⟩ := signed (signs third (by simp))
    obtain ⟨_, below, -, rfl⟩ := signed (signs fourth (by simp))
    exact encode_signs small small' small'' below rest

end Base64
