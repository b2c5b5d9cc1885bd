import KubeGuardian.Controller.IgnoredTraffic

/-!
# Ignored addresses, from text to text

An address comes to the controller as text, goes to the kernel as a word in network order, is
compared there with the words of a socket, comes back in an event and is written as text again.

* **`ipv4FromStr_eq_some_iff`** — the only text that is read as an address is the one that is
  written for it;
* **`fire_iff_ignoringNone`** — the ignore list silences a probe about a socket exactly when the
  probe's test finds an address of the socket;
* **`ignoresTaken_always`** — in every state of every run, a probe's test finds a socket's address
  exactly when its text was taken, an event tells its socket's peer, and no record names an address
  that was taken before its event.
-/

namespace KubeGuardian.Controller

open Lib

/-! ## Numerals

The controller reads an address with Rust's parser for `Ipv4Addr`, which takes no numeral with a
zero in front. So every text that it takes is one that it would write.
-/

/-- A digit is written as it was read. -/
theorem digitChar_of_isDigit {c : Char} (h : c.isDigit) : (c.toNat - '0'.toNat).digitChar = c := by
  have hbounds : 48 ≤ c.toNat ∧ c.toNat ≤ 57 := Char.isDigit_iff_toNat.mp h
  apply Char.toNat_inj.mp
  show (c.toNat - 48).digitChar.toNat = c.toNat
  rw [Nat.toNat_digitChar_of_lt_ten (by omega)]
  omega

/-- **A numeral without a zero in front is how its value is written.** From the last digit. -/
theorem toDigits_ofDigitChars {digits : List Char} (hne : digits ≠ [])
    (hdigits : ∀ c ∈ digits, c.isDigit)
    (hzero : digits.head? = some '0' → digits.length = 1) :
    Nat.toDigits 10 (Nat.ofDigitChars 10 digits 0) = digits := by
  induction digits using List.reverseRecOn with
  | nil => exact absurd rfl hne
  | append_singleton ds c ih =>
    have hc : c.isDigit := hdigits c (by simp)
    have hdigit : (c.toNat - '0'.toNat).digitChar = c := digitChar_of_isDigit hc
    have hlt : c.toNat - '0'.toNat < 10 := by
      have h := hc
      rw [← hdigit, Nat.isDigit_digitChar] at h
      exact of_decide_eq_true h
    rw [Nat.ofDigitChars_append, Nat.ofDigitChars_cons, Nat.ofDigitChars_nil]
    cases ds with
    | nil =>
      rw [Nat.ofDigitChars_nil, Nat.mul_zero, Nat.zero_add, Nat.toDigits_of_lt_base hlt, hdigit]
      rfl
    | cons d ds =>
      have hhead : d ≠ '0' := by
        rintro rfl
        have hlength := hzero rfl
        simp at hlength
      have hinit := ih (by simp) (fun x hx => hdigits x (List.mem_append_left _ hx))
        fun h => absurd (Option.some.inj h) hhead
      -- or what comes before would be written as a zero
      have hpos : 0 < Nat.ofDigitChars 10 (d :: ds) 0 := by
        apply Nat.pos_of_ne_zero
        intro hvalue
        rw [hvalue, Nat.toDigits_zero] at hinit
        exact hhead (List.cons.inj hinit).1.symm
      rw [← Nat.toDigits_append_toDigits (by decide) hpos hlt, hinit,
        Nat.toDigits_of_lt_base hlt, hdigit]

/-! ## Reading what is written

Four numbers between dots on the one side, a word of four bytes on the other.
-/

/-- Every byte can be read from its numeral, which 256 cases show. -/
theorem readNumber_toString (b : UInt8) : readNumber (toString b) = some b.toUInt32 := by
  have hall : ∀ n : Fin 256, readNumber (toString n.val) = some (UInt8.ofNat n.val).toUInt32 := by
    decide +kernel
  have hb := hall ⟨b.toNat, b.toNat_lt⟩
  rw [UInt8.ofNat_toNat] at hb
  exact hb

/-- **A text is read as a number exactly when it is the numeral of a byte.** -/
theorem readNumber_eq_some_iff {text : String} {n : UInt32} :
    readNumber text = some n ↔ ∃ b : UInt8, text = toString b ∧ n = b.toUInt32 := by
  constructor
  · intro h
    unfold readNumber at h
    obtain ⟨⟨hne, hdigits, -, hzero, hle⟩, h⟩ := Option.ite_none_right_eq_some.mp h
    obtain rfl := Option.some.inj h
    -- no leading zero, so the digits are those the number is written with
    have hwritten := toDigits_ofDigitChars hne (List.all_eq_true.mp hdigits) hzero
    have hvalue : Nat.ofDigitChars 10 text.toList 0 ≤ 255 := hle
    refine ⟨UInt8.ofNat (Nat.ofDigitChars 10 text.toList 0), ?_, ?_⟩
    · apply String.toList_inj.mp
      show text.toList = (toString (UInt8.ofNat _).toNat).toList
      rw [UInt8.toNat_ofNat_of_lt' (Nat.lt_succ_of_le hvalue), Nat.toString_eq_repr,
        Nat.toList_repr, hwritten]
    · apply UInt32.toNat_inj.mp
      rw [UInt8.toNat_toUInt32, UInt8.toNat_ofNat_of_lt' (Nat.lt_succ_of_le hvalue)]
      show (UInt32.ofNat (Nat.ofDigitChars 10 text.toList 0)).toNat = _
      rw [UInt32.toNat_ofNat_of_lt' (lt_of_le_of_lt hvalue (by decide))]
  · rintro ⟨b, rfl, rfl⟩
    exact readNumber_toString b

/-- The number of four bytes, the highest first. -/
def ofQuad (a b c d : UInt8) : UInt32 :=
  a.toUInt32 <<< 24 ||| b.toUInt32 <<< 16 ||| c.toUInt32 <<< 8 ||| d.toUInt32

/-- The text of an address shows its bytes. -/
theorem ipv4String_ofQuad (a b c d : UInt8) :
    ipv4String (ofQuad a b c d) = dottedQuad [a, b, c, d] := by
  have hbytes : ofQuad a b c d >>> 24 = a.toUInt32
      ∧ (ofQuad a b c d >>> 16) &&& (0xff : UInt32) = b.toUInt32
      ∧ (ofQuad a b c d >>> 8) &&& (0xff : UInt32) = c.toUInt32
      ∧ ofQuad a b c d &&& (0xff : UInt32) = d.toUInt32 := by
    unfold ofQuad
    refine ⟨?_, ?_, ?_, ?_⟩ <;>
      · apply UInt32.toBitVec_inj.mp
        ext i hi
        simp
        interval_cases i <;> simp
  have hshow : ∀ x : UInt8, toString x.toUInt32 = toString x := by
    intro x
    show toString x.toUInt32.toNat = toString x.toNat
    rw [UInt8.toNat_toUInt32]
  simp only [ipv4String, dottedQuad, hbytes, List.map_cons, List.map_nil, hshow]

/-- A word is made of its bytes, since its text tells it. -/
theorem exists_ofQuad (x : UInt32) : ∃ a b c d, x = ofQuad a b c d := by
  obtain ⟨a, b, c, d, hbytes⟩ : ∃ a b c d, memory .big x = [a, b, c, d] := ⟨_, _, _, _, rfl⟩
  refine ⟨a, b, c, d, @ipv4String_fromBe_inj .big _ _ ?_⟩
  rw [ipv4String_fromBe, hbytes, ← ipv4String_ofQuad]
  rfl

/-- **The text of an address**, and no other, is read as the address. -/
theorem ipv4FromStr_eq_some_iff {text : String} {x : UInt32} :
    ipv4FromStr text = some x ↔ text = ipv4String x := by
  constructor
  · intro h
    unfold ipv4FromStr at h
    split at h
    · next a b c d hfields =>
      simp only [Option.bind_eq_bind, Option.bind_eq_some_iff, readNumber_eq_some_iff] at h
      obtain ⟨_, ⟨a, rfl, rfl⟩, _, ⟨b, rfl, rfl⟩, _, ⟨c, rfl, rfl⟩, _, ⟨d, rfl, rfl⟩, h⟩ := h
      obtain rfl := Option.some.inj h
      show text = ipv4String (ofQuad a b c d)
      -- four numbers between dots, joined again, are the text
      have hjoin : ".".intercalate (fields '.' text) = text := intercalate_fields rfl text
      rw [ipv4String_ofQuad, ← hjoin, hfields]
      rfl
    · cases h
  · rintro rfl
    obtain ⟨a, b, c, d, rfl⟩ := exists_ofQuad x
    have hfields : fields '.' (dottedQuad [a, b, c, d])
        = [toString a, toString b, toString c, toString d] := by
      refine fields_intercalate rfl ?_ (by simp)
      intro s hs
      obtain ⟨y, -, rfl⟩ := List.mem_map.mp hs
      exact notMem_toString (by decide) y.toNat
    rw [ipv4String_ofQuad, ipv4FromStr, hfields]
    simp only [readNumber_toString]
    rfl

/-- Swapping twice is swapping not at all. -/
theorem fromBe_toBe (host : Endian) (x : UInt32) : fromBe host (toBe host x) = x := by
  cases host with
  | little =>
    obtain ⟨h24, h16, h8, h0⟩ := swapBytes_bytes (swapBytes x)
    obtain ⟨h24', h16', h8', h0'⟩ := swapBytes_bytes x
    refine @ipv4String_fromBe_inj .big _ _ ?_
    show ipv4String (swapBytes (swapBytes x)) = ipv4String x
    simp only [ipv4String, h24, h16, h8, h0, h24', h16', h8', h0']
  | big => rfl

/-- On either kind of host a word in network order is the address whose text shows its bytes. -/
theorem addressOf_eq_some_iff {host : Endian} {ip : String} {word : UInt32} :
    addressOf host ip = some word ↔ ip = dottedQuad (memory host word) := by
  rw [← ipv4String_fromBe, ← ipv4FromStr_eq_some_iff, addressOf, Option.map_eq_some_iff]
  constructor
  · rintro ⟨x, hx, rfl⟩
    rw [hx, fromBe_toBe]
  · intro h
    exact ⟨fromBe host word, h, fromBe_toBe host word⟩

/-! ## Sockets and events

The kernel has addresses as words in network order, and compares them as such.
-/

/-- The address is the socket's own or its peer's. -/
def Sock.HasAddress (host : Endian) (s : Sock) (ip : String) : Prop :=
  ip = dottedQuad (memory host s.skcRcvSaddr) ∨ ip = dottedQuad (memory host s.skcDaddr)

/-- The socket whose addresses a probe reads. -/
def ProbeCall.socket (maps : NetworkMaps) : ProbeCall → Option SockPtr
  | .udpSend sk => some sk
  | .connectExit tid _ => maps.sockets.lookup tid
  | .acceptExit _ newSk => some newSk
  | .connectEntry _ _ | .acceptEntry _ _ => none

section Fire

variable {host : Endian} {maps : NetworkMaps} {mem : Memory} {call : ProbeCall}
  {data : NetworkEventData}

/-- **An event tells its socket's addresses**, and passed the test of the probe. -/
theorem socket_of_fire (h : (fire host maps mem call).2 = some data) :
    ∃ sk, call.socket maps = some sk ∧ data.saddr = (mem.read sk).skcRcvSaddr
      ∧ data.daddr = (mem.read sk).skcDaddr ∧ ¬ maps.Ignores (mem.read sk) := by
  cases call with
  | udpSend sk =>
    rw [fire, traceUdpSend_eq] at h
    obtain ⟨-, h⟩ := Option.ite_none_right_eq_some.mp h
    obtain ⟨-, -, hnot, -, rfl⟩ := udpEvent_eq_some_iff.mp h
    exact ⟨sk, rfl, rfl, rfl, hnot⟩
  | connectExit tid ret =>
    cases hsk : maps.sockets.lookup tid with
    | none =>
      rw [fire, tcpV4ConnectExit_of_none hsk] at h
      cases h
    | some sk =>
      rw [fire, tcpV4ConnectExit_of_some hsk] at h
      obtain ⟨-, h⟩ := Option.ite_none_right_eq_some.mp h
      -- the exit half reads the socket the entry half has left
      obtain ⟨hnot, -, -, -, rfl⟩ := connectEvent_eq_some_iff.mp h
      exact ⟨sk, hsk, rfl, rfl, hnot⟩
  | acceptExit tid newSk =>
    cases hsk : maps.acceptedSockets.lookup tid with
    | none =>
      rw [fire, tcpAcceptExit_of_none hsk] at h
      cases h
    | some sk =>
      rw [fire, tcpAcceptExit_of_some hsk] at h
      obtain ⟨-, h⟩ := Option.ite_none_right_eq_some.mp h
      obtain ⟨hnot, -, rfl⟩ := acceptEvent_eq_some_iff.mp h
      exact ⟨newSk, rfl, rfl, rfl, hnot⟩
  | connectEntry tid sk => cases h
  | acceptEntry tid sk => cases h

/-- **What a probe says of a socket**: what it would say with nothing to ignore, unless its test
finds an address of the socket. -/
theorem fire_iff_ignoringNone {sk : SockPtr} (hsk : call.socket maps = some sk) :
    (fire host maps mem call).2 = some data
      ↔ (fire host maps.ignoringNone mem call).2 = some data ∧ ¬ maps.Ignores (mem.read sk) := by
  rw [fire_ignores]
  refine and_congr_right fun hdata => not_congr ?_
  obtain ⟨sk', hsk', hsaddr, hdaddr, -⟩ := socket_of_fire hdata
  -- the ignore list has no part in which socket it is
  have hsame : call.socket maps.ignoringNone = call.socket maps := by cases call <;> rfl
  obtain rfl : sk' = sk := Option.some.inj (hsk'.symm.trans (hsame.trans hsk))
  rw [NetworkMaps.IgnoresEvent, NetworkMaps.Ignores, hsaddr, hdaddr]

end Fire

/-! ## Runs

The tags are what the loop had taken when the event was emitted, so that a record can be compared
with what was ignored by then.
-/

/-- The tag of a call is what the loop has taken before it. -/
def NodeInput.tagged (taken : List String) : NodeInput (List String) → NodeInput (List String)
  | .network _ mem call => .network taken mem call
  | i => i

/-- One step, with an event tagged by the addresses that have been taken from the channel when it is
emitted. -/
def taggedStep (cfg : NodeConfig) (s : Node (List String)) (i : NodeInput (List String)) :
    Node (List String) :=
  s.step cfg (i.tagged s.taken)

/-- What the filter does, in terms of texts. -/
structure IgnoresTaken (host : Endian) (s : Node (List String)) : Prop where
  /-- While the loop runs, what it has taken is stored, and the test looks for nothing else. -/
  ignores : s.loop ≠ .ended → ∀ sock : Sock,
    s.network.Ignores sock ↔ ∃ ip ∈ s.taken, sock.HasAddress host ip
  /-- So each probe reports of a socket what it would with nothing to ignore, if it has none of the
  addresses that were taken, and nothing if it has one. -/
  probes : s.loop ≠ .ended → ∀ mem call sk, call.socket s.network = some sk → ∀ data,
    (fire host s.network mem call).2 = some data
      ↔ (fire host s.network.ignoringNone mem call).2 = some data
        ∧ ∀ ip ∈ s.taken, ¬ (mem.read sk).HasAddress host ip
  events : ∀ mem call data, (fire host s.network mem call).2 = some data →
    ∃ sk, call.socket s.network = some sk
      ∧ ipv4String (fromBe host data.daddr) = dottedQuad (memory host (mem.read sk).skcDaddr)
  records : ∀ posted ∈ s.posted, ∀ ip ∈ posted.1, posted.2.trafficInOutIp ≠ some ip

section Step

variable {cfg : NodeConfig} {s s' : Node (List String)}

/-- What makes it so. The list holds the words of the texts, and an event that waits is not about a
peer that was taken before. -/
structure FiltersTaken (host : Endian) (s : Node (List String)) : Prop where
  words : s.loop ≠ .ended → ∀ word, word ∈ s.network.ignoreIps.keySet
    ↔ dottedQuad (memory host word) ∈ s.taken
  waiting : ∀ event ∈ s.networkEvents, ipv4String (fromBe host event.2.daddr) ∉ event.1
  records : ∀ posted ∈ s.posted, ∀ ip ∈ posted.1, posted.2.trafficInOutIp ≠ some ip

theorem filtersTaken_start (host : Endian) : FiltersTaken host (Node.start (List String)) where
  words _ word := by simp [Node.start, NetworkMaps.start]
  waiting event h := by cases h
  records posted h := by cases h

/-- The test of the probes in terms of texts: the words of the list are those of what was taken. -/
theorem FiltersTaken.ignores_iff {host : Endian} (hs : FiltersTaken host s)
    (hloop : s.loop ≠ .ended) (sock : Sock) :
    s.network.Ignores sock ↔ ∃ ip ∈ s.taken, sock.HasAddress host ip := by
  unfold NetworkMaps.Ignores Sock.HasAddress
  rw [BoundedMap.lookup_isSome_iff, BoundedMap.lookup_isSome_iff, hs.words hloop, hs.words hloop]
  simp only [and_or_left, exists_or, exists_eq_right]

/-- The invariant says all that the property does. -/
theorem FiltersTaken.ignoresTaken {host : Endian} (hs : FiltersTaken host s) :
    IgnoresTaken host s where
  ignores := hs.ignores_iff
  probes hloop mem call sk hsk data := by
    rw [fire_iff_ignoringNone hsk, hs.ignores_iff hloop]
    simp only [not_exists, not_and]
  events mem call data h := by
    obtain ⟨sk, hsk, -, hdaddr, -⟩ := socket_of_fire h
    exact ⟨sk, hsk, by rw [ipv4String_fromBe, hdaddr]⟩
  records := hs.records

/-- Inputs that have nothing to do with addresses or events keep it. -/
theorem FiltersTaken.untouched {host : Endian} (hs : FiltersTaken host s)
    (h : Untouched s s') : FiltersTaken host s' where
  words hloop word := by
    rw [h.ignoreIps, h.taken]
    exact hs.words (h.loop hloop) word
  waiting event hevent := hs.waiting event (h.networkEvents hevent)
  records := by
    rw [h.posted]
    exact hs.records

/-- A text that is taken is on the list from then on, or the loop has ended. -/
theorem FiltersTaken.receiveIp (hs : FiltersTaken cfg.endian s) :
    FiltersTaken cfg.endian (s.receiveIp cfg) := by
  unfold Node.receiveIp
  split
  · next ip ips hloop _ =>
    split
    · simp only
      split
      · next ignoreIps hupdate =>
        refine { hs with words := fun _ word => ?_ }
        obtain ⟨x, hx, hupdate⟩ := Option.bind_eq_some_iff.mp hupdate
        have hword : addressOf cfg.endian ip = some (toBe cfg.endian x) := by
          rw [addressOf, hx, Option.map_some]
        rw [BoundedMap.keySet_of_update hupdate, Finset.mem_insert, hs.words (by simp [hloop]),
          List.mem_append, List.mem_singleton, or_comm, eq_comm (a := word),
          eq_comm (b := ip), ← addressOf_eq_some_iff, hword, Option.some_inj]
      -- or the loop has ended, and there is nothing to say about the list
      · exact { hs with words := fun hnot => absurd rfl hnot }
    · exact hs
  · exact hs

/-- An event that comes to wait has passed the test, so its peer was not taken before it. -/
theorem FiltersTaken.networkCall (hs : FiltersTaken cfg.endian s) (mem : Memory)
    (call : ProbeCall) : FiltersTaken cfg.endian (s.networkCall cfg s.taken mem call) := by
  unfold Node.networkCall
  split
  · exact hs
  · next hrunning =>
    refine { hs with words := fun _ word => ?_, waiting := fun event hevent => ?_ }
    · show word ∈ (fire cfg.endian s.network mem call).1.ignoreIps.keySet ↔ _
      rw [(fire_keeps cfg.endian s.network mem call).2]
      exact hs.words hrunning word
    · rcases List.mem_append.mp hevent with hevent | hevent
      · exact hs.waiting event hevent
      · obtain ⟨data, hdata, rfl⟩ := List.mem_map.mp hevent
        obtain ⟨sk, -, -, hdaddr, hnot⟩ := socket_of_fire (Option.mem_toList.mp hdata)
        -- the probe has looked for the word
        intro htaken
        apply hnot
        right
        rw [BoundedMap.lookup_isSome_iff, hs.words hrunning, ← hdaddr, ← ipv4String_fromBe]
        exact htaken

/-- A record names the peer of its event. -/
theorem FiltersTaken.handleNetworkEvent (hs : FiltersTaken cfg.endian s) (n : Nat)
    (stamp : Stamp) (sent : Sent) :
    FiltersTaken cfg.endian (s.handleNetworkEvent cfg n stamp sent) := by
  have hwaiting : ∀ event ∈ s.networkEvents.eraseIdx n,
      ipv4String (fromBe cfg.endian event.2.daddr) ∉ event.1 :=
    fun event hevent => hs.waiting event (List.mem_of_mem_eraseIdx hevent)
  unfold Node.handleNetworkEvent
  split
  · exact hs
  · next taken data hnext =>
    simp only
    split
    · exact { hs with waiting := hwaiting }
    · next podInspect _ =>
      refine { hs with waiting := hwaiting, records := fun posted hposted => ?_ }
      rcases List.mem_append.mp hposted with hposted | hposted
      · exact hs.records posted hposted
      · obtain ⟨record, hrecord, rfl⟩ := List.mem_map.mp hposted
        obtain ⟨-, -, rfl⟩ := posted_eq_some_iff.mp (Option.mem_toList.mp hrecord)
        -- the new record is of the event taken
        have hpeer := hs.waiting _ (List.mem_of_getElem? hnext)
        intro ip hip htext
        obtain rfl := Option.some.inj htext
        exact hpeer hip

/-- **A step keeps it so**, whatever its input. -/
theorem FiltersTaken.taggedStep (hs : FiltersTaken cfg.endian s) (i : NodeInput (List String)) :
    FiltersTaken cfg.endian (taggedStep cfg s i) := by
  unfold Controller.taggedStep Node.step
  split
  · exact hs
  · cases i with
    | apply pod runtime =>
      show FiltersTaken _ (s.apply cfg pod runtime)
      unfold Node.apply
      split <;> exact { hs with }
    | watch =>
      show FiltersTaken _ s.watch
      unfold Node.watch
      split <;> exact { hs with }
    | receiveIp => exact hs.receiveIp
    | network tag mem call => exact hs.networkCall mem call
    | handleNetwork n stamp sent => exact hs.handleNetworkEvent n stamp sent
    -- the rest touches neither the filters nor the events
    | _ => exact hs.untouched (untouched_next trivial)

end Step

/-- **The filter works on either kind of host**, in every state of every run. -/
theorem ignoresTaken_always (cfg : NodeConfig) (inputs : List (NodeInput (List String))) :
    Always (taggedStep cfg) (IgnoresTaken cfg.endian) (Node.start (List String)) inputs := by
  have hkept : Always (taggedStep cfg) (FiltersTaken cfg.endian) (Node.start (List String))
      inputs :=
    always_of_step (filtersTaken_start cfg.endian) (fun s i hs => hs.taggedStep i) inputs
  exact hkept.imp fun s hs => hs.ignoresTaken

/-- Once the address of `collector` is taken, nothing is said of a datagram that has it, which
would be reported otherwise. -/
theorem ignoresTaken_always_address_reused :
    let s := run (taggedStep shopConfig) (Node.start (List String)) addressReused
    s.taken = ["10.0.0.5"]
      ∧ (fire .little s.network.ignoringNone (fun _ => webSock) (.udpSend 1)).2.isSome
      ∧ (fire .little s.network (fun _ => webSock) (.udpSend 1)).2 = none := by
  have htaken : (run (taggedStep shopConfig) (Node.start (List String)) addressReused).taken
      = ["10.0.0.5"] := by
    decide +kernel
  refine ⟨htaken, by decide +kernel, ?_⟩
  have hignores := (ignoresTaken_always shopConfig addressReused).last
  refine Option.eq_none_iff_forall_ne_some.mpr fun data hdata => ?_
  obtain ⟨-, hnot⟩ := (hignores.probes (by decide +kernel) _ _ 1 rfl data).mp hdata
  exact hnot "10.0.0.5" (htaken ▸ List.mem_singleton_self _) (.inl (by decide +kernel))

end KubeGuardian.Controller
