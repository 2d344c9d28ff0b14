import CardLink.Framing.Endpoint

namespace CardLink.Chunk

variable {kind : LinkKind}

/-- A chunk without its channel. -/
def body (kind : LinkKind) (chunk : List UInt8) : List UInt8 := chunk.drop kind.channelWidth

def tag? (kind : LinkKind) (chunk : List UInt8) : Option Tag :=
  (body kind chunk).head?.bind kind.classify

def sequence (kind : LinkKind) (chunk : List UInt8) : Nat :=
  (Word.join ((body kind chunk)[1]?.getD 0) ((body kind chunk)[2]?.getD 0)).toNat

/-- The total length that a first chunk declares. -/
def declared (kind : LinkKind) (chunk : List UInt8) : Nat :=
  (Word.join ((body kind chunk)[3]?.getD 0) ((body kind chunk)[4]?.getD 0)).toNat

def payload (kind : LinkKind) (chunk : List UInt8) : List UInt8 :=
  (body kind chunk).drop (LinkKind.headerLength (sequence kind chunk))

/-- What stands in front of the payload. Only a first chunk names the total length. -/
def header (kind : LinkKind) (channel : UInt16) (sequence total : Nat) : List UInt8 :=
  (if kind.channelWidth = 2 then Word.big channel else []) ++ Tag.apdu.byte ::
    (Word.big (UInt16.ofNat sequence) ++
      if sequence = 0 then Word.big (UInt16.ofNat total) else [])

theorem fields_of_length {chunk : List UInt8} (whole : 3 ≤ (body kind chunk).length) :
    ∃ tag high low rest, body kind chunk = tag :: high :: low :: rest := by
  rcases fields : body kind chunk with _ | ⟨tag, _ | ⟨high, _ | ⟨low, rest⟩⟩⟩
  · simp [fields] at whole
  · simp [fields] at whole
  · simp [fields] at whole
  · exact ⟨tag, high, low, rest, rfl⟩

theorem first_fields_of_length {chunk : List UInt8} (whole : 5 ≤ (body kind chunk).length) :
    ∃ tag high low high' low' rest,
      body kind chunk = tag :: high :: low :: high' :: low' :: rest := by
  obtain ⟨tag, high, low, rest, fields⟩ := fields_of_length (Nat.le_trans (by decide) whole)
  rcases rest with _ | ⟨high', _ | ⟨low', rest⟩⟩
  · simp [fields] at whole
  · simp [fields] at whole
  · exact ⟨tag, high, low, high', low', rest, fields⟩

theorem sequence_eq {chunk rest : List UInt8} {tag high low : UInt8}
    (fields : body kind chunk = tag :: high :: low :: rest) :
    sequence kind chunk = (Word.join high low).toNat := by
  simp only [sequence, fields, List.getElem?_cons_succ, List.getElem?_cons_zero, Option.getD_some]

theorem declared_eq {chunk rest : List UInt8} {tag high low high' low' : UInt8}
    (fields : body kind chunk = tag :: high :: low :: high' :: low' :: rest) :
    declared kind chunk = (Word.join high' low').toNat := by
  simp only [declared, fields, List.getElem?_cons_succ, List.getElem?_cons_zero, Option.getD_some]

theorem payload_of_first {chunk rest : List UInt8} {tag high low high' low' : UInt8}
    (opening : sequence kind chunk = 0)
    (fields : body kind chunk = tag :: high :: low :: high' :: low' :: rest) :
    payload kind chunk = rest := by
  simp [payload, opening, fields, LinkKind.headerLength]

theorem payload_of_next {chunk rest : List UInt8} {tag high low : UInt8}
    (later : sequence kind chunk ≠ 0)
    (fields : body kind chunk = tag :: high :: low :: rest) :
    payload kind chunk = rest := by
  simp [payload, later, fields, LinkKind.headerLength]

theorem toNat_join_split {n : Nat} (small : n < 65536) :
    (Word.join (UInt8.ofNat ((UInt16.ofNat n).toNat / 256))
      (UInt8.ofNat (UInt16.ofNat n).toNat)).toNat = n := by
  rw [Word.join_split, UInt16.toNat_ofNat']
  exact Nat.mod_eq_of_lt small

theorem header_length (channel : UInt16) (sequence total : Nat) :
    (header kind channel sequence total).length =
      kind.channelWidth + LinkKind.headerLength sequence := by
  by_cases opening : sequence = 0 <;>
    cases kind <;> simp [header, LinkKind.headerLength, LinkKind.channelWidth, opening]

theorem body_header (channel : UInt16) (sequence total : Nat) (rest : List UInt8) :
    body kind (header kind channel sequence total ++ rest) =
      Tag.apdu.byte :: (Word.big (UInt16.ofNat sequence) ++
        ((if sequence = 0 then Word.big (UInt16.ofNat total) else []) ++ rest)) := by
  cases kind <;> simp [body, header, LinkKind.channelWidth, Word.big]

theorem classify_apdu : kind.classify Tag.apdu.byte = some .apdu := by
  cases kind <;> rfl

theorem tag?_header (channel : UInt16) (sequence total : Nat) (rest : List UInt8) :
    tag? kind (header kind channel sequence total ++ rest) = some .apdu := by
  simp only [tag?, body_header, List.head?_cons, Option.bind_some, classify_apdu]

theorem sequence_header {n : Nat} (small : n < 65536) (channel : UInt16) (total : Nat)
    (rest : List UInt8) : sequence kind (header kind channel n total ++ rest) = n := by
  simpa only [sequence, body_header, Word.big, List.cons_append, List.nil_append,
    List.getElem?_cons_succ, List.getElem?_cons_zero, Option.getD_some] using toNat_join_split small

theorem declared_header {total : Nat} (small : total < 65536) (channel : UInt16)
    (rest : List UInt8) : declared kind (header kind channel 0 total ++ rest) = total := by
  simpa only [declared, body_header, Word.big, List.cons_append, List.nil_append, if_true,
    List.getElem?_cons_succ, List.getElem?_cons_zero, Option.getD_some] using toNat_join_split small

theorem payload_header {n : Nat} (small : n < 65536) (channel : UInt16) (total : Nat)
    (rest : List UInt8) : payload kind (header kind channel n total ++ rest) = rest := by
  rw [payload, sequence_header small, body_header]
  unfold LinkKind.headerLength
  split <;> simp [Word.big, *]

theorem channelOf_header (wide : kind.channelWidth = 2) (channel : UInt16) (sequence total : Nat)
    (rest : List UInt8) :
    Endpoint.channelOf kind (header kind channel sequence total ++ rest) = channel := by
  simp only [Endpoint.channelOf, header, wide, if_true, Word.big, List.cons_append,
    List.nil_append, Word.join_split]

end CardLink.Chunk
