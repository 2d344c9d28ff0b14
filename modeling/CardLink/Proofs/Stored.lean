import CardLink.Settings.Stored

namespace CardLink

namespace Stored

variable {α β : Type}

/-- These bytes are read as the value, whatever follows them. -/
def Gives (read : Reader α) (bytes : List UInt8) (value : α) : Prop :=
  ∀ rest, read (bytes ++ rest) = some (value, rest)

/-- Whatever is read depends on the bytes it was read from alone, and these are no fewer than the
value is worth. -/
def Takes (read : Reader α) (worth : α → Nat) : Prop :=
  ∀ bytes value rest, read bytes = some (value, rest) →
    ∃ taken, bytes = taken ++ rest ∧ Gives read taken value ∧ worth value ≤ taken.length

theorem Gives.pure (value : α) : Gives (pure value) [] value := fun _ => rfl

theorem Gives.bind {read : Reader α} {next : α → Reader β} {first second : List UInt8} {a : α}
    {b : β} (before : Gives read first a) (after : Gives (next a) second b) :
    Gives (read >>= next) (first ++ second) b := by
  intro rest
  have step : (read >>= next) (first ++ second ++ rest) =
      (read (first ++ (second ++ rest))).bind fun (a, bytes) => next a bytes := by
    rw [List.append_assoc]
    rfl
  rw [step, before]
  exact after rest

theorem Takes.pure {worth : α → Nat} {value : α} (free : worth value = 0) :
    Takes (pure value) worth := by
  intro bytes given rest read
  cases read
  exact ⟨[], rfl, .pure value, Nat.le_of_eq free⟩

theorem Takes.failure {worth : α → Nat} : Takes (failure : Reader α) worth :=
  fun _ _ _ read => nomatch read

/-- The second value has to be worth only what the first one has not paid for. -/
theorem Takes.bind {read : Reader α} {next : α → Reader β} {worth : β → Nat} (paid : α → Nat)
    (before : Takes read paid) (after : ∀ a, Takes (next a) fun b => worth b - paid a) :
    Takes (read >>= next) worth := by
  intro bytes b rest given
  obtain ⟨⟨a, middle⟩, first, second⟩ := Option.bind_eq_some_iff.mp given
  obtain ⟨front, rfl, gives, least⟩ := before _ _ _ first
  obtain ⟨back, rfl, gives', least'⟩ := after a _ _ _ second
  refine ⟨front ++ back, (List.append_assoc ..).symm, gives.bind gives', ?_⟩
  rw [List.length_append]
  dsimp only at least'
  omega

/-- A value that is read back is not read from a part of its bytes. -/
theorem Takes.cut {read : Reader α} {worth : α → Nat} (takes : Takes read worth)
    {bytes cut : List UInt8} {value : α} (gives : Gives read bytes value) (part : cut <+: bytes)
    (proper : cut ≠ bytes) : read cut = none := by
  refine Option.eq_none_iff_forall_not_mem.mpr fun ⟨other, rest⟩ given => ?_
  obtain ⟨taken, rfl, again, -⟩ := takes _ _ _ given
  obtain ⟨missing, rfl⟩ := part
  have whole := gives []
  rw [List.append_nil, List.append_assoc, again] at whole
  have nothing : rest ++ missing = [] := congrArg Prod.snd (Option.some.inj whole)
  rw [(List.append_eq_nil_iff.mp nothing).2] at proper
  exact proper (List.append_nil _).symm

theorem toNat_continued (n : Nat) : (UInt8.ofNat (n % 128 + 128)).toNat = n % 128 + 128 := by
  rw [UInt8.toNat_ofNat']
  omega

/-- The numbers below this one fit in so many continued groups and a last one up to `top`. -/
def groupLimit (top : Nat) : Nat → Nat
  | 0 => top + 1
  | groups + 1 => 128 * groupLimit top groups

theorem groupLimit_pos (top groups : Nat) : 0 < groupLimit top groups := by
  induction groups with
  | zero => exact Nat.succ_pos top
  | succ groups ih => exact Nat.mul_pos (by decide) ih

theorem gives_writeGroups {top : Nat} (low : top < 128) (groups : Nat) {n : Nat}
    (small : n < groupLimit top groups) :
    Gives (readGroups top groups) (writeGroups groups n) n := by
  induction groups generalizing n with
  | zero =>
    intro rest
    have within : n ≤ top := Nat.le_of_lt_succ small
    have byte : (UInt8.ofNat n).toNat = n := by
      rw [UInt8.toNat_ofNat']
      omega
    simp only [writeGroups, List.singleton_append, readGroups, byte, if_pos within]
  | succ groups ih =>
    intro rest
    unfold writeGroups
    split
    · rename_i least
      have byte : (UInt8.ofNat n).toNat = n := by
        rw [UInt8.toNat_ofNat']
        omega
      simp only [List.singleton_append, readGroups, byte, if_pos least]
    · have high : n / 128 < groupLimit top groups := Nat.div_lt_of_lt_mul small
      have continued : ¬n % 128 + 128 < 128 := by omega
      simp only [List.cons_append, readGroups, toNat_continued, if_neg continued, ih high rest,
        Option.some.injEq, Prod.mk.injEq, and_true]
      omega

theorem takes_readGroups (top groups : Nat) :
    Takes (readGroups top groups) fun n => (writeGroups groups n).length := by
  intro bytes n rest given
  induction groups generalizing bytes n with
  | zero =>
    cases bytes with
    | nil => cases given
    | cons byte bytes =>
      simp only [readGroups] at given
      split at given <;> cases given
      rename_i within
      refine ⟨[byte], rfl, fun after => ?_, Nat.le_refl 1⟩
      simp only [List.singleton_append, readGroups, if_pos within]
  | succ groups ih =>
    cases bytes with
    | nil => cases given
    | cons byte bytes =>
      simp only [readGroups] at given
      split at given
      · rename_i least
        cases given
        refine ⟨[byte], rfl, fun after => ?_, ?_⟩
        · simp only [List.singleton_append, readGroups, if_pos least]
        · simp only [writeGroups, if_pos least, List.length_singleton, Nat.le_refl]
      · rename_i continued
        split at given <;> cases given
        rename_i high read
        obtain ⟨taken, rfl, gives, least⟩ := ih _ _ read
        refine ⟨byte :: taken, rfl, fun after => ?_, ?_⟩
        · simp only [List.cons_append, readGroups, if_neg continued, gives after]
        · -- The number above the first group is the one that the other groups carry.
          have above : (byte.toNat - 128 + 128 * high) / 128 = high := by
            have bounded := byte.toNat_lt
            omega
          simp only [writeGroups]
          split
          · exact Nat.le_add_left 1 _
          · rw [above, List.length_cons, List.length_cons]
            exact Nat.succ_le_succ least

theorem readGroups_lt {top groups n : Nat} {bytes rest : List UInt8}
    (given : readGroups top groups bytes = some (n, rest)) : n < groupLimit top groups := by
  induction groups generalizing bytes n with
  | zero =>
    cases bytes with
    | nil => cases given
    | cons byte bytes =>
      simp only [readGroups] at given
      split at given <;> cases given
      rename_i within
      exact Nat.lt_succ_of_le within
  | succ groups ih =>
    have positive := groupLimit_pos top groups
    rw [groupLimit]
    cases bytes with
    | nil => cases given
    | cons byte bytes =>
      simp only [readGroups] at given
      split at given
      · cases given
        omega
      · split at given <;> cases given
        rename_i high read
        have bounded := byte.toNat_lt
        have above := ih read
        omega

theorem gives_byte (byte : UInt8) : Gives readByte [byte] byte := fun _ => rfl

theorem takes_byte : Takes readByte fun _ => 1 := by
  intro bytes value rest given
  cases bytes with
  | nil => cases given
  | cons =>
    cases given
    exact ⟨[value], rfl, gives_byte value, Nat.le_refl 1⟩

/-- The number of the groups as a value of its own type. -/
theorem gives_number {read : Reader Nat} {bytes : List UInt8} {n : Nat} (gives : Gives read bytes n)
    (f : Nat → α) :
    Gives (fun bytes => (read bytes).map fun (n, rest) => (f n, rest)) bytes (f n) :=
  fun rest => congrArg (Option.map fun (n, rest) => (f n, rest)) (gives rest)

theorem takes_number {top groups : Nat} {f : Nat → α} {worth : α → Nat}
    (fair : ∀ n < groupLimit top groups, worth (f n) = (writeGroups groups n).length) :
    Takes (fun bytes => (readGroups top groups bytes).map fun (n, rest) => (f n, rest)) worth := by
  intro bytes value rest given
  obtain ⟨⟨n, after⟩, read, same⟩ := Option.map_eq_some_iff.mp given
  cases same
  obtain ⟨taken, whole, gives, least⟩ := takes_readGroups top groups _ _ _ read
  exact ⟨taken, whole, gives_number gives f, fair n (readGroups_lt read) ▸ least⟩

theorem gives_word (w : UInt16) : Gives readWord (writeWord w) w := by
  have gives : Gives (readGroups wordTop wordGroups) (writeWord w) w.toNat :=
    gives_writeGroups (by decide) wordGroups w.toNat_lt
  have read := gives_number gives UInt16.ofNat
  rwa [UInt16.ofNat_toNat] at read

theorem takes_word : Takes readWord fun w => (writeWord w).length := by
  refine takes_number fun n small => ?_
  have small : n < 2 ^ 16 := small
  rw [writeWord, UInt16.toNat_ofNat', Nat.mod_eq_of_lt small]

theorem gives_long (w : UInt32) : Gives readLong (writeLong w) w := by
  have gives : Gives (readGroups longTop longGroups) (writeLong w) w.toNat :=
    gives_writeGroups (by decide) longGroups w.toNat_lt
  have read := gives_number gives UInt32.ofNat
  rwa [UInt32.ofNat_toNat] at read

theorem takes_long : Takes readLong fun w => (writeLong w).length := by
  refine takes_number fun n small => ?_
  have small : n < 2 ^ 32 := small
  rw [writeLong, UInt32.toNat_ofNat', Nat.mod_eq_of_lt small]

theorem gives_policy (policy : RetryPolicy) : Gives readPolicy (writePolicy policy) policy := by
  cases policy with
  | unbounded =>
    rw [writePolicy, ← List.append_nil (writeLong 0)]
    exact .bind (gives_long 0) (.pure _)
  | bounded attempts backoff =>
    rw [writePolicy, List.append_assoc, ← List.append_nil (writeLong backoff)]
    exact .bind (gives_long 1) (.bind (gives_word attempts) (.bind (gives_long backoff) (.pure _)))

theorem takes_policy : Takes readPolicy fun policy => (writePolicy policy).length := by
  refine .bind _ takes_long fun index => ?_
  split
  · rename_i first
    subst first
    exact .pure (Nat.sub_self _)
  · split
    · rename_i second
      subst second
      refine .bind _ takes_word fun attempts => .bind _ takes_long fun backoff => .pure ?_
      simp only [writePolicy, List.length_append]
      omega
    · exact .failure

theorem gives_settings (s : Settings) : Gives readSettings s.encode s := by
  have fields : s.encode =
      [s.legacyChunkLength] ++ ([s.maxMtu] ++ ([s.defaultAttMtu] ++ ([s.hidReportLength] ++
      (writeLong s.tick ++ (writeLong s.hciTimeout ++ (writeLong s.connParamTimeout ++
      (writeLong s.connectionTimeout ++ (writeLong s.transferTimeout ++
      (writeWord s.advIntervalMin ++ (writeWord s.advIntervalMax ++
      (writeWord s.connIntervalMin ++ (writeWord s.connIntervalMax ++
      (writeWord s.appearance ++ ([s.txPowerLevel] ++
      (writePolicy s.legacyRetry ++ (writePolicy s.controllerRetry ++ [])))))))))))))))) := by
    simp [Settings.encode]
  rw [fields]
  exact .bind (gives_byte _) <| .bind (gives_byte _) <| .bind (gives_byte _) <|
    .bind (gives_byte _) <| .bind (gives_long _) <| .bind (gives_long _) <|
    .bind (gives_long _) <| .bind (gives_long _) <| .bind (gives_long _) <|
    .bind (gives_word _) <| .bind (gives_word _) <| .bind (gives_word _) <|
    .bind (gives_word _) <| .bind (gives_word _) <| .bind (gives_byte _) <|
    .bind (gives_policy _) <| .bind (gives_policy _) <| .pure s

theorem takes_settings : Takes readSettings fun s => s.encode.length := by
  refine .bind _ takes_byte fun _ => .bind _ takes_byte fun _ => .bind _ takes_byte fun _ =>
    .bind _ takes_byte fun _ => .bind _ takes_long fun _ => .bind _ takes_long fun _ =>
    .bind _ takes_long fun _ => .bind _ takes_long fun _ => .bind _ takes_long fun _ =>
    .bind _ takes_word fun _ => .bind _ takes_word fun _ => .bind _ takes_word fun _ =>
    .bind _ takes_word fun _ => .bind _ takes_word fun _ => .bind _ takes_byte fun _ =>
    .bind _ takes_policy fun _ => .bind _ takes_policy fun _ => .pure ?_
  simp only [Settings.encode, List.length_append, List.length_cons, List.length_nil]
  omega

end Stored

namespace Settings

open Stored

theorem decode_of_read {bytes rest : List UInt8} {s : Settings}
    (read : readSettings bytes = some (s, rest)) :
    decode bytes = s.validate.map fun _ => s := by
  simp only [decode, read, validate]
  cases s.defect? <;> rfl

theorem decode_encode_append (s : Settings) (rest : List UInt8) :
    decode (s.encode ++ rest) = s.validate.map fun _ => s :=
  decode_of_read (gives_settings s rest)

theorem encode_prefix_free {s t : Settings} (front : s.encode <+: t.encode) : s = t := by
  obtain ⟨rest, whole⟩ := front
  have read := gives_settings s rest
  rw [whole, ← List.append_nil t.encode, gives_settings t []] at read
  exact (congrArg Prod.fst (Option.some.inj read)).symm

/-- The stored form of settings, with anything behind it, is read back as the settings, or refused
for the defect that they have; cut anywhere it is refused as undecodable. So no stored form is the
beginning of another one. Whatever else is read as settings, they are valid, and their stored form
is one of the shortest that are. -/
theorem decode_exact :
    (∀ (s : Settings) (rest : List UInt8),
      decode (s.encode ++ rest) = s.validate.map fun _ => s) ∧
    (∀ (s : Settings) (cut : List UInt8), cut <+: s.encode → cut ≠ s.encode →
      (decode cut).mapError Defect.message = .error "decode failed") ∧
    encode.Injective ∧
    (∀ s t : Settings, s.encode <+: t.encode → s = t) ∧
    ∀ (bytes : List UInt8) (s : Settings), decode bytes = .ok s →
      s.validate = .ok () ∧ decode s.encode = .ok s ∧
      ∃ taken rest, bytes = taken ++ rest ∧ readSettings bytes = some (s, rest) ∧
        s.encode.length ≤ taken.length := by
  refine ⟨decode_encode_append, ?_, ?_, fun _ _ => encode_prefix_free, ?_⟩
  · intro s cut part proper
    rw [decode, takes_settings.cut (gives_settings s) part proper]
    rfl
  · intro s t same
    exact encode_prefix_free (same ▸ List.prefix_refl _)
  · intro bytes s given
    cases read : readSettings bytes with
    | none =>
      rw [decode, read] at given
      cases given
    | some value =>
      obtain ⟨t, rest⟩ := value
      rw [decode_of_read read] at given
      cases valid : t.validate with
      | error =>
        rw [valid] at given
        cases given
      | ok =>
        rw [valid] at given
        cases given
        obtain ⟨taken, whole, -, least⟩ := takes_settings _ _ _ read
        have again := decode_encode_append t []
        rw [List.append_nil, valid] at again
        exact ⟨valid, again, taken, rest, whole, rfl, least⟩

/-- The tick in three groups instead of one, and a byte behind the settings; without its last byte
the stored form is refused. -/
theorem decode_exact_padded :
    let padded := standard.encode.take 4 ++ [0xE4, 0x80, 0x00] ++ standard.encode.drop 5 ++ [0xFF]
    let cut := standard.encode.dropLast
    (cut <+: standard.encode ∧ cut ≠ standard.encode ∧ decode padded = .ok standard) ∧
    (decode cut).mapError Defect.message = .error "decode failed" ∧
    standard.validate = .ok () ∧ decode standard.encode = .ok standard ∧
    ∃ taken rest, padded = taken ++ rest ∧ readSettings padded = some (standard, rest) ∧
      standard.encode.length ≤ taken.length := by
  intro padded cut
  have part : cut <+: standard.encode := List.dropLast_prefix _
  have proper : cut ≠ standard.encode := by decide
  have given : decode padded = .ok standard := rfl
  exact ⟨⟨part, proper, given⟩, decode_exact.2.1 standard cut part proper,
    decode_exact.2.2.2.2 padded standard given⟩

end Settings

end CardLink
