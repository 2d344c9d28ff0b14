import CardLink.Proofs.Controller.Initialization

namespace CardLink.Advertising

/-- The structures of a payload, each with its type and its data. A payload that ends in the middle
of one is not read, and a structure has a type at least. -/
def structures? : List UInt8 → Option (List (UInt8 × List UInt8))
  | [] => some []
  | [_] => none
  | length :: type :: rest =>
    if 1 ≤ length.toNat ∧ length.toNat - 1 ≤ rest.length then
      (structures? (rest.drop (length.toNat - 1))).map ((type, rest.take (length.toNat - 1)) :: ·)
    else none
termination_by bytes => bytes.length
decreasing_by
  simp only [List.length_drop, List.length_cons]
  omega

theorem structures?_nil : structures? [] = some [] := by
  unfold structures?
  rfl

/-- A structure reads as what it is made of, whatever follows it. -/
theorem structures?_cons (type : UInt8) {data : List UInt8} (short : data.length < 255)
    (rest : List UInt8) :
    structures? (UInt8.ofNat (data.length + 1) :: type :: (data ++ rest)) =
      (structures? rest).map ((type, data) :: ·) := by
  have length : (UInt8.ofNat (data.length + 1)).toNat = data.length + 1 := by
    rw [UInt8.toNat_ofNat']
    omega
  have whole : 1 ≤ data.length + 1 ∧ data.length + 1 - 1 ≤ (data ++ rest).length := by
    rw [List.length_append]
    omega
  rw [structures?, length, if_pos whole, Nat.add_sub_cancel, List.drop_left, List.take_left]

/-- A payload is the flags and as much of the name as there is room for, and nothing else. -/
theorem structures?_payload (name : List UInt8) : structures? (payload name) =
    some [(typeFlags, [flags]), (typeLocalName, name.take 26)] := by
  have short : (name.take 26).length < 255 := by
    rw [List.length_take]
    omega
  have shown := structures?_cons typeLocalName short []
  rw [List.append_nil, structures?_nil] at shown
  have single : [flags].length < 255 := by decide
  have flagged := structures?_cons typeFlags single
    (UInt8.ofNat ((name.take 26).length + 1) :: typeLocalName :: name.take 26)
  rw [shown] at flagged
  exact flagged

def bytesOf (text : List Char) : List UInt8 := text.flatMap String.utf8EncodeChar

/-- The characters that are kept of a text in a room of so many bytes: those in front, as many as
fit, up to the first one that does not. -/
structure Kept (room : Nat) (text kept : List Char) : Prop where
  leading : kept <+: text
  fits : (bytesOf kept).length ≤ room
  longest : ∀ other, other <+: text → (bytesOf other).length ≤ room → other <+: kept
  stops : ∀ c rest, text = kept ++ c :: rest → room < (bytesOf (kept ++ [c])).length

theorem bytesOf_cons (c : Char) (text : List Char) :
    bytesOf (c :: text) = String.utf8EncodeChar c ++ bytesOf text :=
  List.flatMap_cons

theorem bytesOf_cons_length (c : Char) (text : List Char) :
    (bytesOf (c :: text)).length = (String.utf8EncodeChar c).length + (bytesOf text).length := by
  rw [bytesOf_cons, List.length_append]

theorem kept_nil (room : Nat) : Kept room [] [] :=
  ⟨List.prefix_rfl, Nat.zero_le room, fun _ leading _ => leading, nofun⟩

theorem Kept.cons {room : Nat} {c : Char} {text kept : List Char}
    (fits : (String.utf8EncodeChar c).length ≤ room)
    (rest : Kept (room - (String.utf8EncodeChar c).length) text kept) :
    Kept room (c :: text) (c :: kept) where
  leading := List.prefix_cons_inj c |>.mpr rest.leading
  fits := by
    have within := rest.fits
    rw [bytesOf_cons_length]
    omega
  longest other leading within := by
    rcases List.prefix_cons_iff.mp leading with rfl | ⟨tail, rfl, further⟩
    · exact List.nil_prefix
    · rw [bytesOf_cons_length] at within
      exact List.prefix_cons_inj c |>.mpr (rest.longest tail further (by omega))
  stops d later split := by
    have beyond := rest.stops d later (List.cons.inj split).2
    rw [List.cons_append, bytesOf_cons_length]
    omega

theorem kept_none {room : Nat} {c : Char} (wide : room < (String.utf8EncodeChar c).length)
    (text : List Char) : Kept room (c :: text) [] where
  leading := List.nil_prefix
  fits := Nat.zero_le room
  longest other leading within := by
    rcases List.prefix_cons_iff.mp leading with rfl | ⟨tail, rfl, -⟩
    · exact List.prefix_rfl
    · rw [bytesOf_cons_length] at within
      omega
  stops d later split := by
    rw [List.nil_append] at split ⊢
    rw [← (List.cons.inj split).1, bytesOf_cons_length]
    omega

theorem fittingBytes_kept (room : Nat) (text : List Char) :
    ∃ kept, Kept room text kept ∧ fittingBytes room text = bytesOf kept := by
  induction text generalizing room with
  | nil => exact ⟨[], kept_nil room, rfl⟩
  | cons c text ih =>
    by_cases fits : (String.utf8EncodeChar c).length ≤ room
    · obtain ⟨kept, rest, same⟩ := ih (room - (String.utf8EncodeChar c).length)
      refine ⟨c :: kept, rest.cons fits, ?_⟩
      rw [fittingBytes, if_pos fits, same, bytesOf_cons]
    · refine ⟨[], kept_none (Nat.lt_of_not_le fits) text, ?_⟩
      rw [fittingBytes, if_neg fits]
      rfl

/-- A device is called by the part of its name that is kept in the room for one. -/
theorem clipName_kept (name : String) :
    ∃ kept, Kept nameCapacity name.toList kept ∧ clipName name = bytesOf kept :=
  fittingBytes_kept nameCapacity name.toList

end CardLink.Advertising
