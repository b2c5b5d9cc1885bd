import KubeGuardian.Controller.Address
import KubeGuardian.Controller.NetworkProbe

/-!
# The loop that fills the kernel's maps

`ebpf_handle` of `controller/src/bpf.rs`. A turn takes at most one message of each of the two
channels from the pod watcher; a parse or an update that fails ends the loop in `unwrap`, and the
controller with it.

* **`survives_iff`** — the loop takes all messages exactly when the namespaces fit into the maps
  and, where addresses are ignored at all, each of them is written in the IPv4 form and they fit
  too.
-/

namespace KubeGuardian.Controller

open Lib

/-! ## Parsing an address -/

/-- One of the four numbers: at most three digits, not more than 255, and no zero in front. -/
def readNumber (text : String) : Option UInt32 :=
  let digits := text.toList
  let n := digits.foldl (fun n c => 10 * n + (c.toNat - '0'.toNat)) 0
  if digits ≠ [] ∧ digits.all (·.isDigit) ∧ digits.length ≤ 3
      ∧ (digits.head? = some '0' → digits.length = 1) ∧ n ≤ 255 then
    some (.ofNat n)
  else none

/-- `Ipv4Addr::from_str`, as a number in the host's byte order. -/
def ipv4FromStr (text : String) : Option UInt32 :=
  match fields '.' text with
  | [a, b, c, d] => do
    let a ← readNumber a
    let b ← readNumber b
    let c ← readNumber c
    let d ← readNumber d
    return a <<< 24 ||| b <<< 16 ||| c <<< 8 ||| d
  | _ => none

example : ipv4FromStr "10.0.0.5" = some 0x0a000005 := by decide +kernel

example : ["", "10.0.0", "10.0.0.256", "10.0.0.05", "fd00::5"].map ipv4FromStr
    = [none, none, none, none, none] := by decide +kernel

/-- `u32::to_be`, the same swap as `from_be`. -/
def toBe (host : Endian) (x : UInt32) : UInt32 := fromBe host x

theorem toBe_injective (host : Endian) : Function.Injective (toBe host) := by
  intro x y h
  exact ipv4String_fromBe_inj (congrArg ipv4String h)

/-! ## The loop -/

/-- The maps of the two probes that the loop writes to. -/
structure EbpfMaps where
  network : NetworkMaps
  syscallInodeNum : BoundedMap UInt64 UInt32 maxEntries

def EbpfMaps.start : EbpfMaps := ⟨.start, .empty⟩

namespace EbpfMaps

/-- One inode of the channel: both maps are updated, and a full map ends the loop. -/
def registerInode (s : EbpfMaps) (inum : UInt64) : Option EbpfMaps := do
  let inodeNum ← s.network.inodeNum.update inum 1
  let syscallInodeNum ← s.syscallInodeNum.update inum 1
  return ⟨{ s.network with inodeNum }, syscallInodeNum⟩

/-- One address of the channel. A text that is no IPv4 address ends the loop, as a full map does. -/
def ignoreIp (host : Endian) (s : EbpfMaps) (ip : String) : Option EbpfMaps := do
  let ip ← ipv4FromStr ip
  let ignoreIps ← s.network.ignoreIps.update (toBe host ip) 1
  return { s with network := { s.network with ignoreIps } }

end EbpfMaps

namespace EbpfMaps

/-- The first message of a turn, if there is one. -/
def receiveInode (s : EbpfMaps) : Option UInt64 → Option EbpfMaps
  | some inum => s.registerInode inum
  | none => some s

/-- The second one; without the flag its channel is not read. -/
def receiveIp (host : Endian) (ignoreDaemonsetTraffic : Bool) (s : EbpfMaps) :
    Option String → Option EbpfMaps
  | some ip => if ignoreDaemonsetTraffic then s.ignoreIp host ip else some s
  | none => some s

end EbpfMaps

/-- What `try_recv` of the two channels would yield in one turn. -/
structure Turn where
  inum : Option UInt64
  ip : Option String

/-- One turn of the loop; `none` where an `unwrap` fails. -/
def loopTurn (host : Endian) (ignoreDaemonsetTraffic : Bool) (s : EbpfMaps) (turn : Turn) :
    Option EbpfMaps := do
  let s ← s.receiveInode turn.inum
  s.receiveIp host ignoreDaemonsetTraffic turn.ip

def ebpfHandle (host : Endian) (ignoreDaemonsetTraffic : Bool) (s : EbpfMaps)
    (turns : List Turn) : Option EbpfMaps :=
  turns.foldlM (loopTurn host ignoreDaemonsetTraffic) s

/-! ## What the messages need -/

def inodesOf (turns : List Turn) : List UInt64 := turns.filterMap (·.inum)

/-- The addresses that the loop takes. -/
def ipsOf (ignoreDaemonsetTraffic : Bool) (turns : List Turn) : List String :=
  if ignoreDaemonsetTraffic then turns.filterMap (·.ip) else []

theorem inodesOf_cons (turn : Turn) (turns : List Turn) :
    inodesOf (turn :: turns) = turn.inum.toList ++ inodesOf turns := by
  unfold inodesOf
  cases h : turn.inum <;> simp [h]

theorem ipsOf_cons (flag : Bool) (turn : Turn) (turns : List Turn) :
    ipsOf flag (turn :: turns) = (if flag then turn.ip.toList else []) ++ ipsOf flag turns := by
  unfold ipsOf
  cases flag
  · rfl
  · cases h : turn.ip <;> simp [h]

/-- From `s` on, the updates of all three maps succeed and all addresses can be parsed. -/
def Fits (host : Endian) (s : EbpfMaps) (inodes : List UInt64) (ips : List String) : Prop :=
  (s.network.inodeNum.updates 1 inodes).isSome
    ∧ (s.syscallInodeNum.updates 1 inodes).isSome
    ∧ (∀ ip ∈ ips, (ipv4FromStr ip).isSome)
    ∧ (s.network.ignoreIps.updates 1 ((ips.filterMap ipv4FromStr).map (toBe host))).isSome

section Fits

variable {host : Endian} {flag : Bool} {s s' : EbpfMaps} {inodes : List UInt64}
  {ips : List String}

theorem fits_registerInode {inum : UInt64} :
    Fits host s (inum :: inodes) ips ↔ ∃ s' ∈ s.registerInode inum, Fits host s' inodes ips := by
  unfold Fits EbpfMaps.registerInode
  rw [BoundedMap.updates_cons, BoundedMap.updates_cons]
  cases s.network.inodeNum.update inum 1 with
  | none => simp
  | some inodeNum =>
    cases s.syscallInodeNum.update inum 1 with
    | none => simp
    | some syscallInodeNum => simp

theorem fits_ignoreIp {ip : String} :
    Fits host s inodes (ip :: ips) ↔ ∃ s' ∈ s.ignoreIp host ip, Fits host s' inodes ips := by
  unfold Fits EbpfMaps.ignoreIp
  cases hip : ipv4FromStr ip with
  | none => simp [hip]
  | some address =>
    rw [List.filterMap_cons_some hip, List.map_cons, BoundedMap.updates_cons]
    cases hupdate : s.network.ignoreIps.update (toBe host address) 1 with
    | none => simp [hip, hupdate]
    | some ignoreIps => simp [hip, hupdate]

/-- A turn needs what its messages need. -/
theorem fits_turn {turn : Turn} {turns : List Turn} :
    Fits host s (inodesOf (turn :: turns)) (ipsOf flag (turn :: turns))
      ↔ ∃ s' ∈ loopTurn host flag s turn, Fits host s' (inodesOf turns) (ipsOf flag turns) := by
  obtain ⟨inum, ip⟩ := turn
  have hip : ∀ s inodes, Fits host s inodes (ipsOf flag (⟨inum, ip⟩ :: turns))
      ↔ ∃ s' ∈ s.receiveIp host flag ip, Fits host s' inodes (ipsOf flag turns) := by
    intro s inodes
    rw [ipsOf_cons]
    cases ip with
    | none => cases flag <;> simp [EbpfMaps.receiveIp]
    | some ip =>
      cases flag
      · simp [EbpfMaps.receiveIp]
      · exact fits_ignoreIp
  rw [inodesOf_cons]
  cases inum with
  | none =>
    show Fits host s (inodesOf turns) _ ↔ _
    rw [hip]
    rfl
  | some inum =>
    show Fits host s (inum :: inodesOf turns) _ ↔ _
    rw [fits_registerInode]
    simp only [hip, loopTurn, EbpfMaps.receiveInode, Option.mem_def, Option.bind_eq_bind,
      Option.bind_eq_some_iff]
    constructor
    · rintro ⟨s₁, hs₁, s₂, hs₂, hfits⟩
      exact ⟨s₂, ⟨s₁, hs₁, hs₂⟩, hfits⟩
    · rintro ⟨s₂, ⟨s₁, hs₁, hs₂⟩, hfits⟩
      exact ⟨s₁, hs₁, s₂, hs₂, hfits⟩

/-- **The loop goes on as long as all of it fits.** Induction on the turns. -/
theorem isSome_ebpfHandle_iff {turns : List Turn} :
    (ebpfHandle host flag s turns).isSome ↔ Fits host s (inodesOf turns) (ipsOf flag turns) := by
  induction turns generalizing s with
  | nil => cases flag <;> simp [ebpfHandle, Fits, inodesOf, ipsOf, BoundedMap.updates]
  | cons turn turns ih =>
    rw [fits_turn, ebpfHandle, List.foldlM_cons]
    cases hturn : loopTurn host flag s turn with
    | none => simp
    | some s' => simpa [ebpfHandle] using ih (s := s')

end Fits

/-- **When the loop survives**, whatever the pod watcher sends and in whatever turns. -/
theorem survives_iff (host : Endian) (ignoreDaemonsetTraffic : Bool) (turns : List Turn) :
    (ebpfHandle host ignoreDaemonsetTraffic .start turns).isSome
      ↔ (inodesOf turns).toFinset.card ≤ maxEntries
        ∧ (∀ ip ∈ ipsOf ignoreDaemonsetTraffic turns, (ipv4FromStr ip).isSome)
        ∧ ((ipsOf ignoreDaemonsetTraffic turns).filterMap ipv4FromStr).toFinset.card
          ≤ maxEntries := by
  -- the byte order tells addresses apart as well
  have hcard : (((ipsOf ignoreDaemonsetTraffic turns).filterMap ipv4FromStr).map
      (toBe host)).toFinset.card
        = ((ipsOf ignoreDaemonsetTraffic turns).filterMap ipv4FromStr).toFinset.card := by
    have himage : (((ipsOf ignoreDaemonsetTraffic turns).filterMap ipv4FromStr).map
        (toBe host)).toFinset
          = ((ipsOf ignoreDaemonsetTraffic turns).filterMap ipv4FromStr).toFinset.image
            (toBe host) := by
      ext
      simp
    rw [himage]
    exact Finset.card_image_of_injective _ (toBe_injective host)
  have hempty : ∀ {κ : Type} [DecidableEq κ] (ks : List κ),
      (BoundedMap.empty : BoundedMap κ UInt32 maxEntries).keySet ∪ ks.toFinset = ks.toFinset :=
    fun ks => by rw [BoundedMap.keySet_empty, Finset.empty_union]
  rw [isSome_ebpfHandle_iff]
  unfold Fits
  simp only [BoundedMap.updates_isSome_iff, EbpfMaps.start, NetworkMaps.start, hempty, hcard]
  tauto

/-- The address of one DaemonSet pod with IPv6 ends the loop. -/
theorem ebpfHandle_ipv6 : ebpfHandle .little true .start [⟨some 7, some "fd00::5"⟩] = none := by
  decide +kernel

end KubeGuardian.Controller
