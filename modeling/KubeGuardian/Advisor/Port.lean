import Mathlib

/-!
# Ports and protocols

`parsePort` reads a port with `fmt.Sscanf(_, "%d", _)`: leading white space and a sign are
accepted, whatever follows the digits is ignored, and a newline, a missing digit or a number
outside the 64-bit range is an error. The numbers it accepts are port numbers
(`parsePort_range`), so nothing is lost in the `int32` of an `IntOrString`
(`intValue_fromInt`).
-/

namespace KubeGuardian.Advisor

/-! ## `fmt.Sscanf` -/

/-- `isSpace` of Go's `fmt`, by its table of ranges. -/
def isSpace (r : Char) : Bool :=
  let spaces : List (Nat × Nat) := [(0x0009, 0x000d), (0x0020, 0x0020), (0x0085, 0x0085),
    (0x00a0, 0x00a0), (0x1680, 0x1680), (0x2000, 0x200a), (0x2028, 0x2029), (0x202f, 0x202f),
    (0x205f, 0x205f), (0x3000, 0x3000)]
  spaces.any fun range => range.1 ≤ r.toNat && r.toNat ≤ range.2

/-- `SkipSpace` of a `Sscanf`: what follows the white space, or nothing at a newline. -/
def skipSpace : List Char → Option (List Char)
  | [] => some []
  | r :: rs => if r = '\n' then none else if isSpace r then skipSpace rs else some (r :: rs)

def splitSign : List Char → Bool × List Char
  | '-' :: rs => (true, rs)
  | '+' :: rs => (false, rs)
  | rs => (false, rs)

def decimal (digits : List Char) : Nat := digits.foldl (fun n c => 10 * n + (c.toNat - 48)) 0

/-- `fmt.Sscanf(s, "%d", &i)`, where `i` is a 64-bit `int`. -/
def sscanf (s : String) : Option Int := do
  let rs ← skipSpace s.toList
  let (negative, rs) := splitSign rs
  let digits := rs.takeWhile Char.isDigit
  if digits = [] then none
  else
    let i : Int := if negative then -decimal digits else decimal digits
    if -2 ^ 63 ≤ i ∧ i < 2 ^ 63 then some i else none

/-! ## Ports -/

/-- The errors of `parsePort`, with what their messages show. -/
inductive PortError where
  | invalidFormat (portStr : String)
  | outOfRange (portInt : Int)
  deriving DecidableEq, Repr

/-- `parsePort`: the number that `Sscanf` reads, if it is in the range of ports. What follows the
number in the text is not looked at. -/
def parsePort (portStr : String) : Except PortError Int :=
  match sscanf portStr with
  | none => .error (.invalidFormat portStr)
  | some portInt =>
    if portInt ≤ 0 ∨ portInt > 65535 then .error (.outOfRange portInt) else .ok portInt

theorem parsePort_range {portStr : String} {portInt : Int} (h : parsePort portStr = .ok portInt) :
    0 < portInt ∧ portInt ≤ 65535 := by
  unfold parsePort at h
  split at h
  · cases h
  · split at h
    · cases h
    · next hrange =>
      obtain rfl := Except.ok.inj h
      omega

/-- A digit is neither white space nor a sign. -/
theorem skip_isDigit {c : Char} (h : c.isDigit) (cs : List Char) :
    skipSpace (c :: cs) = some (c :: cs) ∧ splitSign (c :: cs) = (false, c :: cs) := by
  obtain ⟨hlow, hhigh⟩ : 48 ≤ c.toNat ∧ c.toNat ≤ 57 := Char.isDigit_iff_toNat.mp h
  have hspace : isSpace c = false := by
    simp only [isSpace, List.any_eq_false, List.mem_cons, List.not_mem_nil, or_false,
      Bool.and_eq_true, decide_eq_true_eq]
    rintro _ (rfl | rfl | rfl | rfl | rfl | rfl | rfl | rfl | rfl | rfl) <;> dsimp only <;> omega
  have hne : ∀ d : Char, d.toNat < 48 → c ≠ d := by
    rintro d hd rfl
    omega
  constructor
  · rw [skipSpace, if_neg (hne '\n' (by decide)), if_neg (by simp [hspace])]
  · unfold splitSign
    split
    · next heq => exact absurd (List.cons.inj heq).1 (hne '-' (by decide))
    · next heq => exact absurd (List.cons.inj heq).1 (hne '+' (by decide))
    · rfl

/-- A number that was printed in decimal is read back. -/
theorem sscanf_toString {n : Nat} (h : n < 2 ^ 63) : sscanf (toString n) = some (n : Int) := by
  have hlist : (toString n).toList = Nat.toDigits 10 n := Nat.toList_repr
  have hdigit : ∀ c ∈ Nat.toDigits 10 n, c.isDigit :=
    fun c hc => Nat.isDigit_of_mem_toDigits (by decide) (by decide) hc
  have hvalue : decimal (Nat.toDigits 10 n) = n := Nat.ofDigitChars_ten_toDigits
  have htake : (Nat.toDigits 10 n).takeWhile Char.isDigit = Nat.toDigits 10 n :=
    List.takeWhile_eq_self_iff.mpr hdigit
  have hne : Nat.toDigits 10 n ≠ [] := Nat.toDigits_ne_nil
  obtain ⟨c, cs, hcons⟩ := List.exists_cons_of_ne_nil hne
  have hskip := skip_isDigit (hdigit c (by simp [hcons])) cs
  rw [← hcons] at hskip
  have hrange : (-2 ^ 63 : Int) ≤ (n : Int) ∧ (n : Int) < 2 ^ 63 := by omega
  simp only [sscanf, hlist, hskip, Option.bind_eq_bind, Option.bind_some, htake, hne, hvalue,
    if_false, Bool.false_eq_true, hrange, and_self, if_true]

/-- **A printed port number** is the port, and nothing if it is 0. -/
theorem parsePort_toString {n : Nat} (h : n ≤ 65535) :
    parsePort (toString n) = if n = 0 then .error (.outOfRange 0) else .ok (n : Int) := by
  unfold parsePort
  rw [sscanf_toString (by omega)]
  dsimp only
  split_ifs with hrange hzero hzero
  · rw [hzero]; rfl
  · omega
  · omega
  · rfl

example : parsePort "8080" = .ok 8080 := by decide
example : parsePort " +53/udp" = .ok 53 := by decide
example : parsePort "http" = .error (.invalidFormat "http") := by decide
example : parsePort "70000" = .error (.outOfRange 70000) := by decide

inductive IntOrString where
  | int (intVal : Int32)
  | str (strVal : String)
  deriving DecidableEq

namespace IntOrString

/-- `intstr.FromInt`, which keeps 32 bits. -/
def fromInt (val : Int) : IntOrString := .int (Int32.ofInt val)

def string : IntOrString → String
  | .int intVal => toString intVal.toInt
  | .str strVal => strVal

/-- The number a port is compared by; a named port has none of its own. -/
def intValue : IntOrString → Option Int
  | .int intVal => some intVal.toInt
  | .str _ => none

theorem string_int_inj {a b : Int32} (h : (IntOrString.int a).string = (IntOrString.int b).string) :
    a = b :=
  Int32.toInt_inj.mp (Int.repr_injective h)

theorem toInt_ofInt {p : Int} (h : 0 < p ∧ p ≤ 65535) : (Int32.ofInt p).toInt = p := by
  have hsize : Int32.size = 2 ^ 32 := rfl
  rw [Int32.toInt_ofInt, Int.bmod_eq_of_le (by omega) (by omega)]

theorem intValue_fromInt {p : Int} (h : 0 < p ∧ p ≤ 65535) : (fromInt p).intValue = some p := by
  rw [fromInt, intValue, toInt_ofInt h]

theorem string_fromInt {p : Int} (h : 0 < p ∧ p ≤ 65535) : (fromInt p).string = toString p := by
  rw [fromInt, string, toInt_ofInt h]

end IntOrString

/-! ## Protocols -/

/-- The values of `corev1.Protocol` that `protocolPtr` yields. -/
inductive Protocol where
  | tcp
  | udp
  | sctp
  deriving DecidableEq, Repr

def Protocol.string : Protocol → String
  | .tcp => "TCP"
  | .udp => "UDP"
  | .sctp => "SCTP"

theorem Protocol.string_inj {p q : Protocol} (h : p.string = q.string) : p = q := by
  cases p <;> cases q <;> first | rfl | exact absurd h (by decide)

/-- `protocolPtr`: any text that is not one of the three names is taken as TCP. -/
def protocolPtr (protocol : String) : Protocol :=
  if protocol = "TCP" then .tcp
  else if protocol = "UDP" then .udp
  else if protocol = "SCTP" then .sctp
  else .tcp

/-- `networkingv1.NetworkPolicyPort`; both fields are pointers. -/
structure NetworkPolicyPort where
  port : Option IntOrString
  protocol : Option Protocol
  deriving DecidableEq

end KubeGuardian.Advisor
