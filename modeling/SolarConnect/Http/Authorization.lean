import SolarConnect.Misc.Bytes

/-!
# Authorization

`check_auth` of `http_server.c`: the password check of the admin pages. What stands behind
`Basic ` is decoded into an array on the stack. `mbedtls_base64_decode` is not part of the
repository and is a parameter, as is the meaning of base64. `check_auth` does not look at what the
decoder returns. It writes the NUL at the length that the decoder reports, which is the length
that it would need if the array is too short.
-/

namespace SolarConnect.Http

open Bytes

/-- `auth_status_t`. -/
inductive AuthStatus
  | ok
  | missing
  | wrong
  deriving DecidableEq, Repr

/-- The credentials that the build sets: `ADMIN_DEFAULT_USERNAME` and
    `ADMIN_DEFAULT_PASSWORD`. -/
structure Credentials where
  username : CString
  password : CString

/-- Those of a build without a setting (`http_server.c:46-52`): `admin` and `admin123`. -/
def defaultCredentials : Credentials where
  username := ⟨[0x61, 0x64, 0x6D, 0x69, 0x6E], by decide⟩
  password := ⟨[0x61, 0x64, 0x6D, 0x69, 0x6E, 0x31, 0x32, 0x33], by decide⟩

/-- What is compared with: the user name, a colon and the password. -/
def Credentials.text (admin : Credentials) : CString where
  bytes := admin.username.bytes ++ 0x3A :: admin.password.bytes
  noNul nul := by
    rcases List.mem_append.mp nul with user | rest
    · exact admin.username.noNul user
    · rcases List.mem_cons.mp rest with colon | password
      · exact absurd colon (by decide)
      · exact admin.password.noNul password

/-- `sizeof(decoded)`. -/
def decodedSize : Nat := 64

/-- `sizeof(expected)`. -/
def expectedSize : Nat := 64

/-- `"Basic "`. -/
def basicScheme : List Byte := [0x42, 0x61, 0x73, 0x69, 0x63, 0x20]

/-- What `mbedtls_base64_decode` does: the result, the bytes it writes to the front of `dst`, and
    what it sets `*olen` to, if it does. -/
structure Base64Result where
  result : Int
  dst : List Byte
  olen : Option Nat
  deriving DecidableEq

/-- `mbedtls_base64_decode` for a size of `dst` and a source. -/
abbrev Base64Decode := Nat → List Byte → Base64Result

/-- A request as `check_auth` sees it: the value of its `Authorization` header, and whether
    `malloc` and `httpd_req_get_hdr_value_str` succeed. -/
structure AuthRequest where
  authorization : Option CString
  allocates : Bool
  copies : Bool

/-- The status that `check_auth` returns, and the indices of `decoded` that are written. -/
structure AuthRun where
  status : AuthStatus
  written : List Nat
  deriving DecidableEq

/-- What `decoded` and the stack behind it hold when the decoder has returned and the NUL is
    written. -/
def decodedMemory (decoded : Base64Result) (stack : Nat → Byte) (i : Nat) : Byte :=
  if i = decoded.olen.getD 0 then 0 else decoded.dst[i]?.getD (stack i)

/-- `strcmp(memory, s) == 0`. -/
def holdsString (memory : Nat → Byte) (s : CString) : Bool :=
  decide (∀ i < s.length + 1, memory i = byteAt s.bytes i)

/-- What is decoded: the text behind `Basic `. -/
def AuthRequest.encoded (req : AuthRequest) : Option (List Byte) :=
  let bufLen := (req.authorization.map CString.length).getD 0 + 1
  if bufLen ≤ 1 then none
  else if !req.allocates then none
  else if !req.copies then none
  else
    (req.authorization.filter fun buf => basicScheme.isPrefixOf buf.bytes).map
      fun buf => buf.bytes.drop 6

/-- `check_auth` (`http_server.c:1375-1410`), with the contents of the stack where `decoded` is
    allocated. -/
def checkAuth (admin : Credentials) (base64Decode : Base64Decode) (stack : Nat → Byte)
    (req : AuthRequest) : AuthRun :=
  match req.encoded with
  | none => ⟨.missing, []⟩
  | some encoded =>
    let decoded := base64Decode decodedSize encoded
    let decodedLen := decoded.olen.getD 0
    let expected := admin.text.take (expectedSize - 1)
    ⟨if holdsString (decodedMemory decoded stack) expected then .ok else .wrong,
      List.range decoded.dst.length ++ [decodedLen]⟩

/-! ## Base64 as documented -/

/-- The decoder does what its documentation says, when `decoding` gives what valid base64 stands
    for. -/
structure Documented (decoding : List Byte → Option (List Byte)) (base64Decode : Base64Decode) :
    Prop where
  success : ∀ {dlen src bytes}, decoding src = some bytes → bytes.length ≤ dlen →
    base64Decode dlen src = ⟨0, bytes, some bytes.length⟩
  tooSmall : ∀ {dlen src bytes}, decoding src = some bytes → dlen < bytes.length →
    (base64Decode dlen src).result ≠ 0 ∧ (base64Decode dlen src).dst = [] ∧
      (base64Decode dlen src).olen = some bytes.length
  invalid : ∀ dlen {src}, decoding src = none →
    (base64Decode dlen src).result ≠ 0 ∧ (base64Decode dlen src).dst = [] ∧
      (base64Decode dlen src).olen = none

/-- Bytes with a NUL behind them. -/
def terminated (bytes : List Byte) (stack : Nat → Byte) (i : Nat) : Byte :=
  if i = bytes.length then 0 else bytes[i]?.getD (stack i)

theorem terminated_cons_zero (b : Byte) (bytes : List Byte) (stack : Nat → Byte) :
    terminated (b :: bytes) stack 0 = b := by
  rw [terminated, if_neg (by simp)]
  rfl

theorem terminated_cons_succ (b : Byte) (bytes : List Byte) (stack : Nat → Byte) (i : Nat) :
    terminated (b :: bytes) stack (i + 1) = terminated bytes (fun j => stack (j + 1)) i := by
  simp [terminated]

/-- They hold a string exactly if it is what stands in front of their first NUL. -/
theorem terminated_holds_iff (bytes : List Byte) (stack : Nat → Byte) {s : List Byte}
    (noNul : 0 ∉ s) :
    (∀ i < s.length + 1, terminated bytes stack i = byteAt s i) ↔
      bytes.takeWhile (· != 0) = s := by
  induction bytes generalizing stack s with
  | nil =>
    cases s with
    | nil => simp [terminated, byteAt]
    | cons b s =>
      refine iff_of_false ?_ (by simp)
      intro holds
      have zero : 0 = b := holds 0 (by simp)
      exact noNul (zero ▸ List.mem_cons_self)
  | cons a bytes ih =>
    cases s with
    | nil =>
      rw [List.length_nil, Nat.forall_lt_succ_left, terminated_cons_zero, List.takeWhile_cons]
      simp [byteAt]
    | cons b s =>
      have rest := ih (fun j => stack (j + 1)) fun nul => noNul (List.mem_cons_of_mem b nul)
      have nonzero : b ≠ 0 := fun zero => noNul (zero ▸ List.mem_cons_self)
      rw [List.length_cons, Nat.forall_lt_succ_left, terminated_cons_zero]
      simp only [terminated_cons_succ]
      change a = b ∧ (∀ i < s.length + 1, terminated bytes _ i = byteAt s i) ↔ _
      rw [rest, List.takeWhile_cons]
      by_cases same : a = b
      · subst same
        rw [if_pos (bne_iff_ne.mpr nonzero), List.cons_inj_right]
        exact and_iff_right rfl
      · refine iff_of_false (fun both => same both.1) ?_
        by_cases nul : a = 0
        · simp [nul]
        · rw [if_pos (bne_iff_ne.mpr nul)]
          exact fun equal => same (List.cons.inj equal).1

theorem holdsString_terminated (bytes : List Byte) (stack : Nat → Byte) (s : CString) :
    holdsString (terminated bytes stack) s = true ↔ CString.ofBuffer bytes = s := by
  rw [holdsString, decide_eq_true_iff, CString.length, terminated_holds_iff bytes stack s.noNul,
    CString.ext_iff]
  rfl

namespace Documented

variable {decoding : List Byte → Option (List Byte)} {base64Decode : Base64Decode}

/-- Where the decoding fits with its NUL, it stands in the array. -/
theorem memory_of_fits (documented : Documented decoding base64Decode) {encoded bytes : List Byte}
    (valid : decoding encoded = some bytes) (fits : bytes.length < decodedSize)
    (stack : Nat → Byte) :
    decodedMemory (base64Decode decodedSize encoded) stack = terminated bytes stack := by
  rw [documented.success valid fits.le]
  rfl

/-- What is not base64 leaves the empty string. -/
theorem memory_of_invalid (documented : Documented decoding base64Decode) {encoded : List Byte}
    (invalid : decoding encoded = none) (stack : Nat → Byte) :
    decodedMemory (base64Decode decodedSize encoded) stack = terminated [] stack := by
  obtain ⟨-, untouched, unset⟩ := documented.invalid decodedSize invalid
  funext i
  rw [decodedMemory, untouched, unset]
  rfl

/-- The length that the decoder reports is that of the decoding. -/
theorem olen_of_valid (documented : Documented decoding base64Decode) {encoded bytes : List Byte}
    (valid : decoding encoded = some bytes) (dlen : Nat) :
    (base64Decode dlen encoded).olen = some bytes.length := by
  rcases Nat.lt_or_ge dlen bytes.length with short | fits
  · exact (documented.tooSmall valid short).2.2
  · rw [documented.success valid fits]

end Documented

/-! ## The check -/

/-- `decoded` is written inside of its bounds, and only the credentials are accepted. -/
structure Sound (admin : Credentials) (decoding : List Byte → Option (List Byte))
    (req : AuthRequest) (run : AuthRun) : Prop where
  inside : ∀ i ∈ run.written, i < decodedSize
  credentials : run.status = .ok → ∃ header encoded bytes, req.authorization = some header ∧
    header.bytes = basicScheme ++ encoded ∧ decoding encoded = some bytes ∧
      CString.ofBuffer bytes = admin.text

/-- What is decoded leaves room for a NUL, and is not a part of credentials that are too long to
    compare with. -/
def Fits (admin : Credentials) (decoding : List Byte → Option (List Byte)) (req : AuthRequest) :
    Prop :=
  ∀ encoded bytes, req.encoded = some encoded → decoding encoded = some bytes →
    bytes.length < decodedSize ∧
      (CString.ofBuffer bytes = admin.text.take (expectedSize - 1) →
        admin.text.length < expectedSize)

theorem AuthRequest.encoded_eq_some {req : AuthRequest} {encoded : List Byte}
    (reached : req.encoded = some encoded) :
    ∃ header, req.authorization = some header ∧ header.bytes = basicScheme ++ encoded := by
  unfold AuthRequest.encoded at reached
  dsimp only at reached
  split at reached
  · cases reached
  split at reached
  · cases reached
  split at reached
  · cases reached
  obtain ⟨header, found, rfl⟩ := Option.map_eq_some_iff.mp reached
  obtain ⟨present, scheme⟩ := Option.filter_eq_some_iff.mp found
  obtain ⟨rest, split⟩ := List.isPrefixOf_iff_prefix.mp scheme
  refine ⟨header, present, ?_⟩
  rw [← split]
  rfl

/-- The credentials are not empty, so neither is what is compared with. -/
theorem Credentials.expected_ne_empty (admin : Credentials) :
    CString.ofBuffer [] ≠ admin.text.take (expectedSize - 1) := by
  intro empty
  have length := congrArg CString.length empty
  simp [CString.length, CString.ofBuffer, Credentials.text, expectedSize] at length
  omega

theorem Credentials.expected_eq_iff (admin : Credentials) :
    admin.text.take (expectedSize - 1) = admin.text ↔ admin.text.length < expectedSize := by
  constructor
  · intro whole
    have length := congrArg CString.length whole
    rw [CString.length, CString.take_bytes, List.length_take] at length
    rw [CString.length, expectedSize] at *
    omega
  · intro short
    apply CString.take_of_length_le
    rw [expectedSize] at *
    omega

/-- A text that is not base64 is never accepted. -/
theorem checkAuth_invalid (admin : Credentials) {decoding : List Byte → Option (List Byte)}
    {base64Decode : Base64Decode} (documented : Documented decoding base64Decode)
    (stack : Nat → Byte) {req : AuthRequest} {encoded : List Byte}
    (reached : req.encoded = some encoded) (invalid : decoding encoded = none) :
    checkAuth admin base64Decode stack req = ⟨.wrong, [0]⟩ := by
  have rejected : ¬ holdsString (terminated [] stack) (admin.text.take (expectedSize - 1)) := by
    rw [holdsString_terminated]
    exact admin.expected_ne_empty
  obtain ⟨-, untouched, unset⟩ := documented.invalid decodedSize invalid
  rw [checkAuth, reached]
  dsimp only
  rw [documented.memory_of_invalid invalid, if_neg rejected, untouched, unset]
  rfl

/-- A decoding that fits is compared with the credentials. -/
theorem checkAuth_fits (admin : Credentials) {decoding : List Byte → Option (List Byte)}
    {base64Decode : Base64Decode} (documented : Documented decoding base64Decode)
    (stack : Nat → Byte) {req : AuthRequest} {encoded bytes : List Byte}
    (reached : req.encoded = some encoded) (valid : decoding encoded = some bytes)
    (fits : bytes.length < decodedSize) :
    checkAuth admin base64Decode stack req =
      ⟨if CString.ofBuffer bytes = admin.text.take (expectedSize - 1) then .ok else .wrong,
        List.range (bytes.length + 1)⟩ := by
  rw [checkAuth, reached]
  dsimp only
  rw [documented.memory_of_fits valid fits, documented.success valid fits.le, List.range_succ]
  simp only [holdsString_terminated, Option.getD_some]

/-- The NUL is written behind the decoding, whether it is in the array or not. -/
theorem checkAuth_writes (admin : Credentials) {decoding : List Byte → Option (List Byte)}
    {base64Decode : Base64Decode} (documented : Documented decoding base64Decode)
    (stack : Nat → Byte) {req : AuthRequest} {encoded bytes : List Byte}
    (reached : req.encoded = some encoded) (valid : decoding encoded = some bytes) :
    bytes.length ∈ (checkAuth admin base64Decode stack req).written := by
  rw [checkAuth, reached]
  dsimp only
  rw [documented.olen_of_valid valid]
  exact List.mem_append_right _ (List.mem_singleton_self _)

section

variable {admin : Credentials} {decoding : List Byte → Option (List Byte)}
  {base64Decode : Base64Decode} {req : AuthRequest}

/-- A sound call stays in its array, and takes nothing but the credentials for them. -/
theorem Sound.fits (documented : Documented decoding base64Decode) (stack : Nat → Byte)
    (sound : Sound admin decoding req (checkAuth admin base64Decode stack req)) :
    Fits admin decoding req := by
  intro encoded bytes reached valid
  have fits := sound.inside _ (checkAuth_writes admin documented stack reached valid)
  refine ⟨fits, ?_⟩
  intro same
  have accepted : (checkAuth admin base64Decode stack req).status = .ok := by
    rw [checkAuth_fits admin documented stack reached valid fits, if_pos same]
  obtain ⟨header, text, decoded, present, scheme, meaning, credentials⟩ :=
    sound.credentials accepted
  obtain ⟨header', present', scheme'⟩ := AuthRequest.encoded_eq_some reached
  obtain rfl := Option.some.inj (present'.symm.trans present)
  obtain rfl := List.append_cancel_left (scheme'.symm.trans scheme)
  obtain rfl := Option.some.inj (valid.symm.trans meaning)
  exact admin.expected_eq_iff.mp (same.symm.trans credentials)

/-- What fits in the array is compared as a whole. -/
theorem Fits.sound (documented : Documented decoding base64Decode) (stack : Nat → Byte)
    (fits : Fits admin decoding req) :
    Sound admin decoding req (checkAuth admin base64Decode stack req) := by
  cases reached : req.encoded with
  | none =>
    rw [checkAuth, reached]
    exact ⟨fun i member => absurd member List.not_mem_nil, fun accepted => by cases accepted⟩
  | some encoded =>
    cases valid : decoding encoded with
    | none =>
      rw [checkAuth_invalid admin documented stack reached valid]
      refine ⟨?_, fun accepted => by cases accepted⟩
      intro i member
      rw [List.mem_singleton.mp member]
      decide
    | some bytes =>
      obtain ⟨inside, whole⟩ := fits encoded bytes reached valid
      rw [checkAuth_fits admin documented stack reached valid inside]
      refine ⟨?_, ?_⟩
      · intro i member
        have below := List.mem_range.mp member
        omega
      · intro accepted
        dsimp only at accepted
        split at accepted
        · rename_i same
          obtain ⟨header, present, scheme⟩ := AuthRequest.encoded_eq_some reached
          have text := admin.expected_eq_iff.mpr (whole same)
          exact ⟨header, encoded, bytes, present, scheme, valid, same.trans text⟩
        · cases accepted

end

/-- The check is sound exactly if what is decoded fits. -/
theorem checkAuth_sound_iff (admin : Credentials) {decoding : List Byte → Option (List Byte)}
    {base64Decode : Base64Decode} (documented : Documented decoding base64Decode)
    (stack : Nat → Byte) (req : AuthRequest) :
    Sound admin decoding req (checkAuth admin base64Decode stack req) ↔
      Fits admin decoding req :=
  ⟨Sound.fits documented stack, Fits.sound documented stack⟩

/-! ## A decoder -/

/-- What a base64 digit stands for. -/
def base64Digit (c : Byte) : Option Nat :=
  if 0x41 ≤ c ∧ c ≤ 0x5A then some (c.toNat - 0x41)
  else if 0x61 ≤ c ∧ c ≤ 0x7A then some (c.toNat - 0x61 + 26)
  else if 0x30 ≤ c ∧ c ≤ 0x39 then some (c.toNat - 0x30 + 52)
  else if c = 0x2B then some 62
  else if c = 0x2F then some 63
  else none

/-- Four digits stand for three bytes. -/
def base64Group (a b c d : Byte) : Option (List Byte) :=
  (base64Digit a).bind fun a => (base64Digit b).bind fun b =>
    (base64Digit c).bind fun c => (base64Digit d).map fun d =>
      [BitVec.ofNat 8 (a * 4 + b / 16), BitVec.ofNat 8 (b * 16 + c / 4),
        BitVec.ofNat 8 (c * 64 + d)]

/-- The last group can end in one or two `=`, for a byte less each. -/
def base64Last (a b c d : Byte) : Option (List Byte) :=
  if d ≠ 0x3D then base64Group a b c d
  else if c ≠ 0x3D then (base64Group a b c 0x41).map (List.take 2)
  else (base64Group a b 0x41 0x41).map (List.take 1)

/-- What base64 stands for. -/
def base64Meaning : List Byte → Option (List Byte)
  | [] => some []
  | [a, b, c, d] => base64Last a b c d
  | a :: b :: c :: d :: rest =>
    (base64Group a b c d).bind fun first => (base64Meaning rest).map fun bytes => first ++ bytes
  | _ => none

/-- A decoder: `MBEDTLS_ERR_BASE64_INVALID_CHARACTER` is -0x2C and
    `MBEDTLS_ERR_BASE64_BUFFER_TOO_SMALL` -0x2A. -/
def plainDecode (dlen : Nat) (src : List Byte) : Base64Result :=
  match base64Meaning src with
  | none => ⟨-0x2C, [], none⟩
  | some bytes =>
    if bytes.length ≤ dlen then ⟨0, bytes, some bytes.length⟩ else ⟨-0x2A, [], some bytes.length⟩

theorem plainDecode_documented : Documented base64Meaning plainDecode where
  success valid fits := by rw [plainDecode, valid]; exact if_pos fits
  tooSmall valid short := by
    rw [plainDecode, valid]
    dsimp only
    rw [if_neg (not_le.mpr short)]
    exact ⟨Int.neg_ne_zero.mpr (by decide), rfl, rfl⟩
  invalid dlen {src} invalid := by
    rw [plainDecode, invalid]
    exact ⟨Int.neg_ne_zero.mpr (by decide), rfl, rfl⟩

/-- `Basic YWRtaW46YWRtaW4xMjM=`. -/
def adminRequest : AuthRequest where
  authorization := some ⟨basicScheme ++
    [0x59, 0x57, 0x52, 0x74, 0x61, 0x57, 0x34, 0x36, 0x59, 0x57, 0x52, 0x74, 0x61, 0x57, 0x34,
      0x78, 0x4D, 0x6A, 0x4D, 0x3D], by decide⟩
  allocates := true
  copies := true

theorem checkAuth_sound_admin :
    (checkAuth defaultCredentials plainDecode (fun _ => 0) adminRequest).status = .ok ∧
      Sound defaultCredentials base64Meaning adminRequest
        (checkAuth defaultCredentials plainDecode (fun _ => 0) adminRequest) := by
  refine ⟨by decide, (checkAuth_sound_iff _ plainDecode_documented _ _).mpr ?_⟩
  intro encoded bytes reached valid
  obtain rfl := Option.some.inj reached
  obtain rfl := Option.some.inj valid
  decide

/-- `Basic ` and the base64 of 66 zero bytes. -/
def longRequest : AuthRequest where
  authorization := some ⟨basicScheme ++ List.replicate 88 0x41, by decide⟩
  allocates := true
  copies := true

/-- Where an earlier check left the credentials on the stack, a decoding that does not fit is
    accepted, and the NUL is written behind the array. -/
theorem long_accepted :
    let stack := fun i => byteAt defaultCredentials.text.bytes i
    checkAuth defaultCredentials plainDecode stack longRequest = ⟨.ok, [66]⟩ ∧
      ¬ Sound defaultCredentials base64Meaning longRequest
        (checkAuth defaultCredentials plainDecode stack longRequest) := by
  intro stack
  have accepted : checkAuth defaultCredentials plainDecode stack longRequest = ⟨.ok, [66]⟩ := by
    decide
  refine ⟨accepted, ?_⟩
  intro sound
  rw [accepted] at sound
  exact absurd (sound.inside 66 (List.mem_singleton_self 66)) (by decide)

end SolarConnect.Http
