/-
Pinguin.SmtpIdentity.AddressTheorems — addresses in normal form.

An ASCII address that `NewAddress` accepts is stored as the lower case of
its trimmed text, and an owner's email likewise, so that normalizing twice
changes nothing. The stored form of an address in a DNS domain is accepted
again, as itself: `Authenticate` parses the address it stored.
-/
import Pinguin.Go.AtomTheorems
import Pinguin.SmtpIdentity.SenderDomain

namespace Pinguin.SmtpIdentity

open Pinguin.Go

/-! ## Accepted addresses -/

/-- The first `@` is where an address is cut. -/
theorem cut_at {localPart : GoString} (h : 0x40 ∉ localPart) (domain : GoString) :
    cut (localPart ++ 0x40 :: domain) 0x40 = (localPart, domain, true) := cut_append_sep h domain

theorem cut_dotAtom {localPart : GoString} (h : DotAtom localPart) (domain : GoString) :
    cut (localPart ++ 0x40 :: domain) 0x40 = (localPart, domain, true) := by
  refine cut_at (fun hat => ?_) domain
  exact (atext_byte 0x40 (isASCII_iff.mp h.ascii _ hat) (h.atext _ hat)).2.2.2.1 rfl

/-- What `NewAddress` accepts and what it makes of it. -/
theorem newAddress_ok {raw : GoString} {address : Address} (hascii : isASCII raw = true)
    (h : newAddress raw = .ok address) :
    ∃ localPart domain, DotAtom localPart ∧ isASCII domain = true ∧ trimSpace domain = domain ∧
      trimSpace raw = localPart ++ 0x40 :: domain ∧
      address.value = localPart.map lowerByte ++ 0x40 :: domain.map lowerByte ∧
      address.domain = domain.map lowerByte := by
  have htrim := isASCII_trimSpace hascii
  simp only [newAddress] at h
  split at h
  · cases h
  · split at h
    · cases h
    · rename_i parsed hparse
      split at h
      · cases h
      · rename_i hself
        simp only [not_or, not_not] at hself
        obtain ⟨-, hself⟩ := hself
        have hown : parseAddress (trimSpace raw) = some ⟨parsed.name, trimSpace raw⟩ := by
          rw [hparse, ← hself]
        obtain ⟨localPart, domain, hs, hatom, hdomain⟩ := parseAddress_self hown
        have hlocal : DotAtom localPart := dotAtom_of_consumeAtom htrim hatom
        have hdomainAscii : isASCII domain = true :=
          isASCII_of_subset htrim fun b hb => by rw [hs]; simp [hb]
        have hdomainTrim : trimSpace domain = domain :=
          (consumeDomain_visible hdomainAscii hdomain).trimSpace
        rw [hself, hs, cut_dotAtom hlocal domain] at h
        simp only [Except.ok.injEq, hlocal.visible.trimSpace, hdomainTrim, toLower_ascii _ hlocal.ascii,
          toLower_ascii _ hdomainAscii] at h
        refine ⟨localPart, domain, hlocal, hdomainAscii, hdomainTrim, hs, ?_, ?_⟩
        · rw [← h, show lit "@" = [0x40] by decide]
          simp
        · rw [← h]

/-- The normal form is the lower case of the trimmed text. -/
theorem newAddress_value {raw : GoString} {address : Address} (hascii : isASCII raw = true)
    (h : newAddress raw = .ok address) : address.value = toLower (trimSpace raw) := by
  obtain ⟨localPart, domain, -, -, -, hs, hvalue, -⟩ := newAddress_ok hascii h
  rw [toLower_ascii _ (isASCII_trimSpace hascii), hs, hvalue, List.map_append, List.map_cons,
    show lowerByte 0x40 = 0x40 by decide]

theorem normalizeOwnerEmail_ascii {email : GoString} (hascii : isASCII email = true) :
    normalizeOwnerEmail email = toLower (trimSpace email) := by
  unfold normalizeOwnerEmail
  split
  · rfl
  · rename_i address haddress
    exact newAddress_value hascii haddress

/-- An owner's email is normalized once. -/
theorem normalizeOwnerEmail_idem {email : GoString} (hascii : isASCII email = true) :
    normalizeOwnerEmail (normalizeOwnerEmail email) = normalizeOwnerEmail email := by
  have hnormal : isASCII (toLower (trimSpace email)) = true :=
    isASCII_toLower (isASCII_trimSpace hascii)
  rw [normalizeOwnerEmail_ascii hascii, normalizeOwnerEmail_ascii hnormal]
  exact toLower_trimSpace_idem hascii

/-! ## DNS names -/

/-- What a DNS byte is. -/
theorem dns_byte : ∀ b : UInt8, b.toNat < 128 → isDNSByte b = true →
    isAtext b.toNat true = true ∧ lowerByte b = b ∧ b ≠ 0x2E :=
  forall_ascii (by decide)

theorem isDNSByte_ascii {b : UInt8} (h : isDNSByte b = true) : b.toNat < 128 := by
  simp only [isDNSByte, Bool.or_eq_true, Bool.and_eq_true, decide_eq_true_eq] at h
  rcases h with (h | h) | h
  · omega
  · omega
  · rw [h]
    decide

/-- A DNS name is a dot-atom in lower case. -/
theorem dotAtom_of_validDNS {domain : GoString} (h : validDNSDomainName domain = true) :
    DotAtom domain ∧ domain.map lowerByte = domain := by
  simp only [validDNSDomainName, Bool.and_eq_true, List.all_eq_true, validDNSLabel, bne_iff_ne,
    ne_eq] at h
  obtain ⟨-, hlabels⟩ := h
  have hbytes : ∀ b ∈ domain, b = 0x2E ∨ isDNSByte b = true :=
    splitByte_bytes fun label hlabel => List.all_eq_true.mpr (hlabels label hlabel).2
  have hnoEmpty : [] ∉ splitByte 0x2E domain := fun hmem => (hlabels [] hmem).1.1.1.1 rfl
  have hatext : ∀ b ∈ domain, b.toNat < 128 ∧ isAtext b.toNat true = true ∧ lowerByte b = b := by
    intro b hb
    rcases hbytes b hb with rfl | hdns
    · decide
    · have hlt := isDNSByte_ascii hdns
      obtain ⟨ha, hl, -⟩ := dns_byte b hlt hdns
      exact ⟨hlt, ha, hl⟩
  refine ⟨⟨isASCII_iff.mpr fun b hb => (hatext b hb).1, ?_, fun b hb => (hatext b hb).2.1, ?_⟩, ?_⟩
  · rintro rfl
    exact hnoEmpty (by simp [splitByte])
  · refine Bool.eq_false_iff.mpr fun hbad => hnoEmpty ((badDots_iff ?_).mp hbad)
    rintro rfl
    exact hnoEmpty (by simp [splitByte])
  · exact (List.map_congr_left fun b hb => (hatext b hb).2.2).trans (List.map_id _)

/-! ## Stored addresses -/

theorem newAddress_dotAtom {localPart domain : GoString} (hlocal : DotAtom localPart)
    (hdomain : DotAtom domain) (hlower : localPart.map lowerByte = localPart)
    (hlower' : domain.map lowerByte = domain) :
    newAddress (localPart ++ 0x40 :: domain) =
      .ok ⟨localPart ++ 0x40 :: domain, domain⟩ := by
  have hvisible : Visible (localPart ++ 0x40 :: domain) := by
    have hat : Visible [0x40] := by decide
    exact hlocal.visible.append (hat.append hdomain.visible)
  have htrim := hvisible.trimSpace
  have hlines : containsAny (localPart ++ 0x40 :: domain) "\r\n" = false := by
    rw [containsAny, List.any_eq_false]
    intro b hb hline
    rw [show lit "\r\n" = [13, 10] by decide] at hline
    have : b = 13 ∨ b = 10 := by simpa using hline
    have hspace := (hvisible b hb).2
    rcases this with rfl | rfl
    · exact absurd hspace (by decide)
    · exact absurd hspace (by decide)
  have hne : localPart ++ 0x40 :: domain ≠ [] := by simp
  simp only [newAddress, htrim, hne, hlines, Bool.false_eq_true, or_self, if_false,
    parseAddress_dotAtom hlocal hdomain, ne_eq, not_true_eq_false, cut_dotAtom hlocal domain,
    hlocal.visible.trimSpace, hdomain.visible.trimSpace, toLower_ascii _ hlocal.ascii,
    toLower_ascii _ hdomain.ascii, hlower, hlower', show lit "@" = [0x40] by decide,
    List.append_assoc, List.singleton_append]

/-- The normal form of an address in a DNS domain is accepted as itself. -/
theorem newAddress_stored {raw : GoString} {address : Address} (hascii : isASCII raw = true)
    (h : newAddress raw = .ok address)
    (hdns : validDNSDomainName (toLower (trimSpace address.domain)) = true) :
    newAddress address.value = .ok address ∧ toLower (trimSpace address.domain) = address.domain := by
  obtain ⟨localPart, domain, hlocal, hdomainAscii, htrim, -, hvalue, hdomain⟩ :=
    newAddress_ok hascii h
  have hlower : ∀ s : GoString, isASCII s = true →
      (s.map lowerByte).map lowerByte = s.map lowerByte := by
    intro s hs
    rw [← toLower_ascii s hs, ← toLower_ascii _ (isASCII_toLower hs)]
    exact toLower_toLower hs
  have hnormal : toLower (trimSpace address.domain) = address.domain := by
    rw [hdomain, trimSpace_map_lowerByte hdomainAscii, htrim,
      toLower_ascii _ (isASCII_map_lowerByte hdomainAscii), hlower domain hdomainAscii]
  refine ⟨?_, hnormal⟩
  obtain ⟨hatom, hlowered⟩ := dotAtom_of_validDNS (hnormal ▸ hdns)
  rw [hdomain] at hatom hlowered
  rw [hvalue, newAddress_dotAtom hlocal.lower hatom (hlower localPart hlocal.ascii) hlowered,
    ← hvalue, ← hdomain]

/-! ## Addresses of any bytes -/

/-- The normal form is made of the two parts of the trimmed text, which has no
line break. -/
theorem newAddress_parts {raw : GoString} {address : Address} (h : newAddress raw = .ok address) :
    containsAny (trimSpace raw) "\r\n" = false ∧
      address.value = toLower (trimSpace (cut (trimSpace raw) 0x40).1) ++
        0x40 :: toLower (trimSpace (cut (trimSpace raw) 0x40).2.1) ∧
      address.domain = toLower (trimSpace (cut (trimSpace raw) 0x40).2.1) := by
  simp only [newAddress] at h
  split at h
  · cases h
  · rename_i hbreak
    split at h
    · cases h
    · split at h
      · cases h
      · rename_i hsame
        rw [not_or, not_not, not_not] at hsame
        have haddress := Except.ok.inj h
        rw [hsame.2] at haddress
        have hat : lit "@" = [0x40] := by decide
        rw [hat, List.append_assoc, List.singleton_append] at haddress
        refine ⟨Bool.eq_false_iff.mpr (not_or.mp hbreak).2, ?_, ?_⟩
        · rw [← haddress]
        · rw [← haddress]

/-- An address is cut at its first `@`, before which lower case made no
other. -/
theorem newAddress_cut {raw : GoString} {address : Address} (h : newAddress raw = .ok address) :
    ∃ localPart, cut address.value 0x40 = (localPart, address.domain, true) := by
  obtain ⟨_, hvalue, hdomain⟩ := newAddress_parts h
  refine ⟨toLower (trimSpace (cut (trimSpace raw) 0x40).1), ?_⟩
  rw [hvalue, hdomain]
  apply cut_append_sep
  exact fun hat => not_mem_cut _ _ (mem_of_mem_trimSpace (at_mem_of_toLower hat))

/-- A normal form has no outer white space. -/
theorem newAddress_trimmed {raw : GoString} {address : Address} (h : newAddress raw = .ok address) :
    trimSpace address.value = address.value := by
  rw [(newAddress_parts h).2.1, ← trimSpace_toLower_trimSpace (cut (trimSpace raw) 0x40).2.1]
  apply trimSpace_append_ascii_trimmed
  · decide
  · decide
  · intro r hr
    rw [← trimSpace_toLower_trimSpace] at hr
    exact head_runes_trimSpace hr

/-- A normal form has no line break. -/
theorem newAddress_no_break {raw : GoString} {address : Address}
    (h : newAddress raw = .ok address) : containsAny address.value "\r\n" = false := by
  obtain ⟨hbreak, hvalue, _⟩ := newAddress_parts h
  rw [containsAny, List.any_eq_false] at hbreak ⊢
  intro b hb hlineEnd
  have hlow : b.toNat ≤ 0x40 ∧ b ≠ 0x40 := by
    rcases List.mem_pair.mp (List.contains_iff_mem.mp hlineEnd) with rfl | rfl
    · decide
    · decide
  -- lower case makes no byte as low as these
  have hlower : ∀ {part : GoString}, b ∈ toLower (trimSpace part) → b ∈ part := fun hmem =>
    mem_of_mem_trimSpace (mem_of_mem_toLower hlow.1 hmem)
  rw [hvalue, List.mem_append, List.mem_cons] at hb
  have hmem : b ∈ (cut (trimSpace raw) 0x40).1 ∨ b ∈ (cut (trimSpace raw) 0x40).2.1 := ?_
  · exact hbreak b (mem_of_mem_cut hmem) hlineEnd
  rcases hb with hb | hb | hb
  · exact .inl (hlower hb)
  · exact absurd hb hlow.2
  · exact .inr (hlower hb)

theorem newAddress_value_ne_nil {raw : GoString} {address : Address}
    (h : newAddress raw = .ok address) : address.value ≠ [] := by
  obtain ⟨localPart, hcut⟩ := newAddress_cut h
  intro hnil
  rw [hnil] at hcut
  have hfound : (cut [] 0x40).2.2 = true := by rw [hcut]
  exact absurd hfound (by decide)

theorem normalizeOwnerEmail_ne_nil {email : GoString} (h : trimSpace email ≠ []) :
    normalizeOwnerEmail email ≠ [] := by
  unfold normalizeOwnerEmail
  split
  · exact toLower_ne_nil h
  · rename_i address haddress
    exact newAddress_value_ne_nil haddress

end Pinguin.SmtpIdentity
