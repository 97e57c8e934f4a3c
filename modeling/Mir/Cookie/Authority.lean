/-
This file embeds how cookies are made, and how they are told from forged ones. A cookie has a time
and a code for it that only who knows the secret can come by; as bytes it is its format, the time
and the code. Bytes that come back are taken apart, the cookie for their time is made again, and
the two are compared in a time that does not depend on where they differ.

It proves that what is accepted is exactly what an authority with the secret makes. The function
that makes a code of a secret and some bytes is a parameter.
-/

import Mathlib.Data.List.GetD
import Mir.Library.ByteOrder

namespace Mir.Cookie

abbrev Secret := List UInt8

def minimumSecretSize : Nat := 8

def macByteSize : Nat := 20

def defaultBlobSize : Nat := 29

inductive Format
  | hmacSHA1_8
  deriving DecidableEq, Repr

def Format.toByte : Format → UInt8
  | hmacSHA1_8 => 0

def cookieSizeFromFormat : Format → Nat
  | .hmacSHA1_8 => defaultBlobSize

inductive CookieError
  | logicError (what : String)
  | securityCheckError
  deriving DecidableEq, Repr

def CookieError.what : CookieError → String
  | logicError what => what
  | securityCheckError => "Invalid Cookie"

structure HMACCookie where
  timestamp : BitVec 64
  mac : List UInt8
  format : Format
  deriving DecidableEq, Repr

/-- The time is in the bytes that the machine has it in. -/
def timestampBytes (order : ByteOrder) (timestamp : BitVec 64) : List UInt8 :=
  @ByteOrder.toBytes order 8 timestamp

def HMACCookie.serialize (order : ByteOrder) (cookie : HMACCookie) : List UInt8 :=
  cookie.format.toByte :: timestampBytes order cookie.timestamp ++ cookie.mac

/-! ### Comparing in constant time -/

/-- The bits in which some of the first bytes differ. -/
def differences (b1 b2 : Nat → UInt8) : Nat → UInt8
  | 0 => 0
  | len + 1 => differences b1 b2 len ||| (b1 len ^^^ b2 len)

/-- The bits are made an `int` before one is taken off, and the shift keeps the sign. -/
def constMemcmp (b1 b2 : Nat → UInt8) (len : Nat) : BitVec 32 :=
  let d := (differences b1 b2 len).toBitVec.setWidth 32
  (1 &&& (d - 1).sshiftRight 8) - 1

/-- The memory from the first of some bytes on. -/
def memoryOf (bytes : List UInt8) (i : Nat) : UInt8 := bytes.getD i 0

/-! ### Authorities -/

/-- Who knows a secret that is long enough. -/
structure AuthorityNettle where
  secret : Secret
  longEnough : minimumSecretSize ≤ secret.length

/-- What makes a code of a secret and some bytes. -/
abbrev HMAC := Secret → List UInt8 → Vector UInt8 macByteSize

namespace AuthorityNettle

def createFrom (secret : Secret) : Except CookieError AuthorityNettle :=
  if short : secret.length < minimumSecretSize then
    .error (.logicError ("Secret size " ++ toString secret.length ++ " is to small, require " ++
      toString minimumSecretSize ++ " or greater."))
  else .ok ⟨secret, Nat.not_lt.mp short⟩

/-- Every authority is made of its secret. -/
theorem createFrom_eq_ok_iff {secret : Secret} {authority : AuthorityNettle} :
    createFrom secret = .ok authority ↔ authority.secret = secret := by
  unfold createFrom
  split_ifs with short
  · refine iff_of_false nofun ?_
    rintro rfl
    exact Nat.not_lt.mpr authority.longEnough short
  · rw [Except.ok.injEq]
    constructor
    · rintro rfl
      rfl
    · rintro rfl
      rfl

variable (order : ByteOrder) (hmac : HMAC) (authority : AuthorityNettle)

def calculateCookie (timestamp : BitVec 64) : List UInt8 :=
  (hmac authority.secret (timestampBytes order timestamp)).toList

def makeCookie (timestamp : BitVec 64) : HMACCookie :=
  ⟨timestamp, authority.calculateCookie order hmac timestamp, .hmacSHA1_8⟩

def verifyCookie (timestamp : BitVec 64) (cookie : HMACCookie) : Bool :=
  let calculatedCookie := authority.makeCookie order hmac timestamp
  let thisStream := cookie.serialize order
  let otherStream := calculatedCookie.serialize order
  decide (thisStream.length = otherStream.length) &&
    decide (constMemcmp (memoryOf thisStream) (memoryOf otherStream) thisStream.length = 0)

/-- The time that is embedded in some bytes, behind the format. -/
def embeddedTimestamp (rawCookie : List UInt8) : BitVec 64 :=
  order.ofBytes 8 ((rawCookie.drop 1).take 8)

/-- The cookie that some bytes are. -/
def makeCookieOf (rawCookie : List UInt8) : Except CookieError HMACCookie :=
  if rawCookie.length ≠ cookieSizeFromFormat .hmacSHA1_8 then .error .securityCheckError
  else if memoryOf rawCookie 0 ≠ Format.hmacSHA1_8.toByte then .error .securityCheckError
  else
    let timestamp := embeddedTimestamp order rawCookie
    let mac := (rawCookie.drop 9).take macByteSize
    let cookie : HMACCookie := ⟨timestamp, mac, .hmacSHA1_8⟩
    if authority.verifyCookie order hmac timestamp cookie then .ok cookie
    else .error .securityCheckError

end AuthorityNettle

/-! ### What the comparison tells -/

theorem differences_eq_zero_iff (b1 b2 : Nat → UInt8) (len : Nat) :
    differences b1 b2 len = 0 ↔ ∀ i < len, b1 i = b2 i := by
  induction len with
  | zero => exact iff_of_true rfl nofun
  | succ len inductionHypothesis =>
    rw [differences, UInt8.or_eq_zero_iff, inductionHypothesis, UInt8.xor_eq_zero_iff,
      Nat.forall_lt_succ_right]

/-- Taking one off no bits leaves the sign in all of the shifted ones. -/
theorem arithmetic_eq_zero_iff : ∀ bits : BitVec 8,
    (1 &&& (bits.setWidth 32 - 1).sshiftRight 8) - 1 = (0 : BitVec 32) ↔ bits = 0 := by
  decide +kernel

theorem constMemcmp_eq_zero_iff (b1 b2 : Nat → UInt8) (len : Nat) :
    constMemcmp b1 b2 len = 0 ↔ ∀ i < len, b1 i = b2 i := by
  rw [← differences_eq_zero_iff]
  exact (arithmetic_eq_zero_iff _).trans UInt8.toBitVec_inj

theorem constMemcmp_memoryOf_iff {first second : List UInt8}
    (sameLength : first.length = second.length) :
    constMemcmp (memoryOf first) (memoryOf second) first.length = 0 ↔ first = second := by
  rw [constMemcmp_eq_zero_iff]
  constructor
  · intro same
    refine List.ext_getElem sameLength fun i inFirst inSecond => ?_
    have sameByte := same i inFirst
    unfold memoryOf at sameByte
    rw [List.getD_eq_getElem _ _ inFirst, List.getD_eq_getElem _ _ inSecond] at sameByte
    exact sameByte
  · rintro rfl i _
    rfl

/-! ### Cookies and bytes -/

variable (order : ByteOrder)

theorem length_timestampBytes (timestamp : BitVec 64) :
    (timestampBytes order timestamp).length = 8 :=
  ByteOrder.length_toBytes order _

theorem length_serialize (cookie : HMACCookie) :
    (cookie.serialize order).length = 9 + cookie.mac.length := by
  rw [HMACCookie.serialize, List.length_append, List.length_cons, length_timestampBytes]

namespace AuthorityNettle

theorem embeddedTimestamp_serialize (cookie : HMACCookie) :
    embeddedTimestamp order (cookie.serialize order) = cookie.timestamp := by
  unfold embeddedTimestamp HMACCookie.serialize
  rw [List.cons_append, List.drop_one, List.tail_cons,
    List.take_left' (length_timestampBytes order cookie.timestamp)]
  exact order.ofBytes_toBytes _

/-- The code is what is left behind the time. -/
theorem mac_of_serialize (cookie : HMACCookie) : (cookie.serialize order).drop 9 = cookie.mac := by
  refine List.drop_left' ?_
  rw [List.length_cons, length_timestampBytes]

/-- Bytes of the right length and format are those of the cookie that is read from them. -/
theorem serialize_embedded {rawCookie : List UInt8} (length : rawCookie.length = defaultBlobSize)
    (isFormat : memoryOf rawCookie 0 = Format.hmacSHA1_8.toByte) :
    HMACCookie.serialize order ⟨embeddedTimestamp order rawCookie,
      (rawCookie.drop 9).take macByteSize, .hmacSHA1_8⟩ = rawCookie := by
  cases rawCookie with
  | nil => cases length
  | cons byte bytes =>
    have first : byte = Format.hmacSHA1_8.toByte := isFormat
    have rest : bytes.length = 28 := Nat.succ.inj length
    have timestamp : timestampBytes order (embeddedTimestamp order (byte :: bytes)) =
        bytes.take 8 := by
      refine order.toBytes_ofBytes ?_
      rw [List.drop_one, List.tail_cons, List.length_take]
      omega
    have mac : ((byte :: bytes).drop 9).take macByteSize = bytes.drop 8 := by
      rw [List.drop_succ_cons, List.take_of_length_le]
      rw [List.length_drop, rest]
      decide
    unfold HMACCookie.serialize
    dsimp only
    rw [timestamp, mac, List.cons_append, List.take_append_drop, first]

/-! ### What is accepted -/

variable (hmac : HMAC) (authority : AuthorityNettle)

theorem verifyCookie_iff (timestamp : BitVec 64) (cookie : HMACCookie) :
    authority.verifyCookie order hmac timestamp cookie = true ↔
      cookie.serialize order = (authority.makeCookie order hmac timestamp).serialize order := by
  unfold verifyCookie
  rw [Bool.and_eq_true, decide_eq_true_iff, decide_eq_true_iff]
  constructor
  · rintro ⟨sameLength, same⟩
    exact (constMemcmp_memoryOf_iff sameLength).mp same
  · intro same
    have sameLength := congrArg List.length same
    exact ⟨sameLength, (constMemcmp_memoryOf_iff sameLength).mpr same⟩

theorem length_makeCookie (timestamp : BitVec 64) :
    ((authority.makeCookie order hmac timestamp).serialize order).length = defaultBlobSize := by
  rw [length_serialize, makeCookie, calculateCookie, Vector.length_toList]
  rfl

/-- Bytes are accepted if they are those of the cookie that is made for their time, and that cookie
is what they give. -/
theorem makeCookieOf_eq (rawCookie : List UInt8) :
    authority.makeCookieOf order hmac rawCookie =
      let genuine := authority.makeCookie order hmac (embeddedTimestamp order rawCookie)
      if rawCookie = genuine.serialize order then .ok genuine else .error .securityCheckError := by
  dsimp only
  generalize isGenuine :
    authority.makeCookie order hmac (embeddedTimestamp order rawCookie) = genuine
  have genuineLength :
      (genuine.serialize order).length = cookieSizeFromFormat .hmacSHA1_8 := by
    rw [← isGenuine, length_makeCookie]
    rfl
  have genuineFormat : memoryOf (genuine.serialize order) 0 = Format.hmacSHA1_8.toByte := by
    rw [← isGenuine]
    rfl
  unfold makeCookieOf
  by_cases length : rawCookie.length = cookieSizeFromFormat .hmacSHA1_8
  · by_cases format : memoryOf rawCookie 0 = Format.hmacSHA1_8.toByte
    · have verified := verifyCookie_iff order hmac authority (embeddedTimestamp order rawCookie)
        ⟨embeddedTimestamp order rawCookie, (rawCookie.drop 9).take macByteSize, .hmacSHA1_8⟩
      rw [serialize_embedded order length format, isGenuine] at verified
      rw [if_neg (not_not.mpr length), if_neg (not_not.mpr format)]
      dsimp only
      by_cases same : rawCookie = genuine.serialize order
      · have isMac : (rawCookie.drop 9).take macByteSize = genuine.mac := by
          have genuineMac : genuine.mac.length = macByteSize := by
            rw [← isGenuine]
            exact Vector.length_toList
          rw [same, mac_of_serialize, List.take_of_length_le (Nat.le_of_eq genuineMac)]
        rw [if_pos (verified.mpr same), if_pos same, isMac, ← isGenuine]
        rfl
      · rw [if_neg (mt verified.mp same), if_neg same]
    · have different : rawCookie ≠ genuine.serialize order :=
        fun same => format (same ▸ genuineFormat)
      rw [if_neg (not_not.mpr length), if_pos format, if_neg different]
  · have different : rawCookie ≠ genuine.serialize order :=
      fun same => length (same ▸ genuineLength)
    rw [if_pos length, if_neg different]

/-- Bytes are those of some cookie that the authority makes exactly if they are those of the one for
the time in them. -/
theorem isGenuine_iff (rawCookie : List UInt8) :
    (∃ timestamp, rawCookie = (authority.makeCookie order hmac timestamp).serialize order) ↔
      rawCookie = (authority.makeCookie order hmac
        (embeddedTimestamp order rawCookie)).serialize order := by
  refine ⟨?_, fun same => ⟨_, same⟩⟩
  rintro ⟨timestamp, rfl⟩
  rw [embeddedTimestamp_serialize]
  rfl

/-- Bytes are accepted exactly if they are those of the cookie that is made for the time in them.
What they give has that time and these bytes. All others are refused, and the comparison tells all
differences. -/
theorem accepts_genuine_cookies (order : ByteOrder) (hmac : HMAC) (authority : AuthorityNettle)
    (rawCookie : List UInt8) :
    ((∃ cookie, authority.makeCookieOf order hmac rawCookie = .ok cookie) ↔
      rawCookie = (authority.makeCookie order hmac
        (embeddedTimestamp order rawCookie)).serialize order) ∧
    (∀ cookie, authority.makeCookieOf order hmac rawCookie = .ok cookie →
      cookie.timestamp = embeddedTimestamp order rawCookie ∧
        cookie.serialize order = rawCookie) ∧
    (rawCookie ≠ (authority.makeCookie order hmac
        (embeddedTimestamp order rawCookie)).serialize order →
      authority.makeCookieOf order hmac rawCookie = .error .securityCheckError) ∧
    ∀ (b1 b2 : Nat → UInt8) (len : Nat), constMemcmp b1 b2 len = 0 ↔ ∀ i < len, b1 i = b2 i := by
  have outcome := makeCookieOf_eq order hmac authority rawCookie
  dsimp only at outcome
  refine ⟨?_, ?_, ?_, constMemcmp_eq_zero_iff⟩
  · rw [outcome]
    split_ifs with same
    · exact iff_of_true ⟨_, rfl⟩ same
    · refine iff_of_false ?_ same
      rintro ⟨cookie, none⟩
      cases none
  · intro cookie accepted
    rw [outcome] at accepted
    split_ifs at accepted with same
    rw [← Except.ok.inj accepted]
    exact ⟨rfl, same.symm⟩
  · intro different
    rw [outcome, if_neg different]

/-- A secret, and the code that is made of it for the time 5. -/
private def eightBytes : AuthorityNettle := ⟨[1, 2, 3, 4, 5, 6, 7, 8], by decide⟩

private def sameCode : HMAC := fun _ _ =>
  #v[201, 57, 193, 123, 149, 134, 32, 57, 0, 251, 203, 244, 105, 95, 1, 15, 6, 56, 61, 100]

theorem genuine_cookie_accepted :
    (∃ cookie, eightBytes.makeCookieOf .littleEndian sameCode [0, 5, 0, 0, 0, 0, 0, 0, 0, 201, 57,
      193, 123, 149, 134, 32, 57, 0, 251, 203, 244, 105, 95, 1, 15, 6, 56, 61, 100] = .ok cookie) ∧
    eightBytes.makeCookieOf .littleEndian sameCode [0, 5, 0, 0, 0, 0, 0, 0, 0, 201, 57, 193, 123,
      149, 134, 32, 57, 0, 251, 203, 244, 105, 95, 1, 15, 6, 56, 61, 101] =
        .error .securityCheckError :=
  ⟨(accepts_genuine_cookies .littleEndian sameCode eightBytes _).1.mpr (by decide),
    (accepts_genuine_cookies .littleEndian sameCode eightBytes _).2.2.1 (by decide)⟩

end AuthorityNettle

end Mir.Cookie
