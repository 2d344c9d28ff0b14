namespace CardLink.Word

/-- The most significant byte first. -/
def big (w : UInt16) : List UInt8 :=
  [UInt8.ofNat (w.toNat / 256), UInt8.ofNat w.toNat]

/-- The least significant byte first. -/
def little (w : UInt16) : List UInt8 :=
  [UInt8.ofNat w.toNat, UInt8.ofNat (w.toNat / 256)]

def join (high low : UInt8) : UInt16 :=
  UInt16.ofNat (high.toNat * 256 + low.toNat)

def little32 (w : UInt32) : List UInt8 :=
  little (UInt16.ofNat w.toNat) ++ little (UInt16.ofNat (w.toNat / 65536))

def big32 (w : UInt32) : List UInt8 :=
  big (UInt16.ofNat (w.toNat / 65536)) ++ big (UInt16.ofNat w.toNat)

def join32 (high low : UInt16) : UInt32 :=
  UInt32.ofNat (high.toNat * 65536 + low.toNat)

/-- The little-endian word at a position, if both of its bytes are there. -/
def littleAt? (bytes : List UInt8) (position : Nat) : Option UInt16 :=
  match bytes[position]?, bytes[position + 1]? with
  | some low, some high => some (join high low)
  | _, _ => none

def littleAt (bytes : List UInt8) (position : Nat) : UInt16 :=
  (littleAt? bytes position).getD 0

/-- Splitting a word and joining its bytes gives the word back. -/
theorem join_split (w : UInt16) :
    join (UInt8.ofNat (w.toNat / 256)) (UInt8.ofNat w.toNat) = w := by
  apply UInt16.toNat_inj.mp
  have bound := w.toNat_lt
  simp only [join, UInt16.toNat_ofNat', UInt8.toNat_ofNat']
  omega

@[simp]
theorem length_big (w : UInt16) : (big w).length = 2 := rfl

@[simp]
theorem length_little (w : UInt16) : (little w).length = 2 := rfl

end CardLink.Word
