/-
Pinguin.SmtpIdentity.NormalForm — is a normal form an address?

`newAddress` parses first and then strips white space from the local part
and from the domain, each by itself. `net/mail` takes the white space beyond
ASCII into an atom, so stripping can bring a dot next to the `@`, where a
strict dot-atom has none. Otherwise the two parts stay what they were: a
normal form without a dot before or after its `@` is read back as itself.
-/
import Pinguin.SmtpIdentity.AddressTheorems

namespace Pinguin.SmtpIdentity

open Pinguin.Go

/-! ## The parts of an accepted address -/

/-- The two parts of a text that is its own address: a strict dot-atom that
does not start with white space, and a domain that does not end with it. -/
structure OwnAddress (text localPart domain : GoString) : Prop where
  eq : text = localPart ++ 0x40 :: domain
  atom : Atom localPart
  domain : consumeDomain domain = some (domain, [])

theorem ownAddress_of_parse {text name : GoString}
    (h : parseAddress text = some ⟨name, text⟩) :
    ∃ localPart domain, OwnAddress text localPart domain := by
  obtain ⟨localPart, domain, heq, hatom, hdomain⟩ := parseAddress_self h
  exact ⟨localPart, domain, heq, atom_of_consumeAtom hatom, hdomain⟩

/-- What `newAddress` reads and what it makes of it. -/
theorem newAddress_own {raw : GoString} {address : Address} (h : newAddress raw = .ok address) :
    ∃ localPart domain, OwnAddress (trimSpace raw) localPart domain ∧
      address = ⟨toLower (trimSpace localPart) ++ 0x40 :: toLower (trimSpace domain),
        toLower (trimSpace domain)⟩ := by
  simp only [newAddress] at h
  split at h
  · cases h
  split at h
  · cases h
  next parsed hparse =>
  split at h
  · cases h
  next hsame =>
  rw [not_or, not_not, not_not] at hsame
  have hself : parseAddress (trimSpace raw) = some ⟨parsed.name, trimSpace raw⟩ := by
    rw [hparse, ← hsame.2]
  obtain ⟨localPart, domain, hown⟩ := ownAddress_of_parse hself
  refine ⟨localPart, domain, hown, ?_⟩
  have hat : lit "@" = [0x40] := by decide
  rw [hsame.2, hown.eq, cut_at hown.atom.text.not_at, hat] at h
  simp only [List.append_assoc, List.singleton_append] at h
  exact (Except.ok.inj h).symm

/-- An address made of its own parts is accepted. -/
theorem OwnAddress.newAddress {text localPart domain : GoString}
    (h : OwnAddress text localPart domain) (htrim : trimSpace text = text)
    (hbreak : containsAny text "\r\n" = false) (hspace : skipSpace domain = domain) :
    SmtpIdentity.newAddress text = .ok ⟨toLower (trimSpace localPart) ++ 0x40 ::
      toLower (trimSpace domain), toLower (trimSpace domain)⟩ := by
  have hparse : parseAddress text = some ⟨[], text⟩ := by
    rw [h.eq]
    exact h.atom.parseAddress hspace h.domain
  have hne : text ≠ [] := by rw [h.eq]; simp
  have hcut : cut text 0x40 = (localPart, domain, true) := by
    rw [h.eq]
    exact cut_at h.atom.text.not_at domain
  have hat : lit "@" = [0x40] := by decide
  simp only [SmtpIdentity.newAddress, htrim, hbreak, hne, hparse, hcut, Bool.false_eq_true, or_self,
    if_false, ne_eq, not_true_eq_false, hat, List.append_assoc, List.singleton_append]

/-! ## Stripped parts -/

/-- The local part of a trimmed text does not start with white space, and
its domain does not end with it. -/
theorem OwnAddress.ends {raw localPart domain : GoString}
    (h : OwnAddress (trimSpace raw) localPart domain) :
    (∀ r, (runes localPart).head? = some r → isSpace r.1 = false) ∧
      (∀ r, (runes domain).getLast? = some r → isSpace r.1 = false) := by
  have hrunes : runes (trimSpace raw) = runes localPart ++ (0x40, [0x40]) :: runes domain := by
    rw [h.eq]
    exact runes_append_ascii localPart (by decide) domain
  constructor
  · intro r hr
    refine head_runes_trimSpace (s := raw) ?_
    rw [hrunes, List.head?_append, hr]
    rfl
  · intro r hr
    refine last_runes_trimSpace (s := raw) ?_
    rw [hrunes, List.getLast?_append, List.getLast?_cons, hr]
    rfl

/-- The stripped local part in lower case is a dot-atom, if it does not end
in a dot. -/
theorem atom_stripped_local {raw localPart domain : GoString}
    (h : OwnAddress (trimSpace raw) localPart domain)
    (hlast : (toLower (trimSpace localPart)).getLast? ≠ some 0x2E) :
    Atom (toLower (trimSpace localPart)) := by
  obtain ⟨hstarts, hne⟩ := trimSpace_isPrefix h.atom.nonempty h.ends.1
  refine ⟨toLower_ne_nil hne, h.atom.text.trimSpace.toLower, ?_⟩
  rw [badDots_toLower hne]
  refine badDots_of_isPrefix hstarts hne h.atom.dots fun hdot => hlast ?_
  obtain ⟨front, hfront⟩ := List.getLast?_eq_some_iff.mp hdot
  rw [hfront, toLower_append_ascii front (by decide)]
  simp [show lowerByte 0x2E = 0x2E by decide, toLower]

/-- The stripped domain in lower case is a dot-atom, if it does not begin with
a dot. -/
theorem atom_stripped_domain {raw localPart domain : GoString}
    (h : OwnAddress (trimSpace raw) localPart domain) (hatom : Atom domain)
    (hhead : (toLower (trimSpace domain)).head? ≠ some 0x2E) :
    Atom (toLower (trimSpace domain)) := by
  obtain ⟨hends, hne⟩ := trimSpace_isSuffix hatom.nonempty h.ends.2
  refine ⟨toLower_ne_nil hne, hatom.text.trimSpace.toLower, ?_⟩
  rw [badDots_toLower hne]
  refine badDots_of_isSuffix hends hne hatom.dots fun hdot => hhead ?_
  obtain ⟨tail, htail⟩ := List.head?_eq_some_iff.mp hdot
  have hlower := toLower_append_ascii [] (c := 0x2E) (by decide) tail
  rw [List.nil_append] at hlower
  rw [htail, hlower]
  rfl

/-- The normal form of a domain literal. -/
theorem literal_normal {ip : GoString} (h : isIP ip = true) :
    toLower (trimSpace (0x5B :: (ip ++ [0x5D]))) = 0x5B :: (ip.map lowerByte ++ [0x5D]) := by
  have hbyte : ∀ b : UInt8, b.toNat < 128 → isIPByte b = true → isSpace b.toNat = false :=
    forall_ascii (by decide)
  have hvisible : Visible (0x5B :: (ip ++ [0x5D])) := by
    intro b hb
    rcases List.mem_cons.mp hb with rfl | hb
    · decide
    · rcases List.mem_append.mp hb with hb | hb
      · have hip := isIP_bytes h b hb
        exact ⟨isIPByte_ascii hip, hbyte b (isIPByte_ascii hip) hip⟩
      · rw [List.mem_singleton.mp hb]
        decide
  rw [hvisible.trimSpace, toLower_ascii _ (isASCII_iff.mpr fun b hb => (hvisible b hb).1)]
  simp [show lowerByte 0x5B = 0x5B by decide, show lowerByte 0x5D = 0x5D by decide]

/-- A stripped domain in lower case has no `@`, and it is a domain if it does
not begin with a dot. -/
theorem stripped_domain {raw localPart domain : GoString}
    (h : OwnAddress (trimSpace raw) localPart domain) :
    0x40 ∉ toLower (trimSpace domain) ∧
      ((toLower (trimSpace domain)).head? ≠ some 0x2E →
        skipSpace (toLower (trimSpace domain)) = toLower (trimSpace domain) ∧
        consumeDomain (toLower (trimSpace domain)) = some (toLower (trimSpace domain), [])) := by
  rcases consumeDomain_cases h.domain with hatom | ⟨ip, rfl, hip⟩
  · refine ⟨hatom.text.trimSpace.toLower.not_at, fun hhead => ?_⟩
    have hstripped := atom_stripped_domain h hatom hhead
    obtain ⟨b, tail, hstart⟩ := List.exists_cons_of_ne_nil hstripped.nonempty
    have hwsp := (hstripped.text.start hstart).1
    refine ⟨?_, hstripped.consumeDomain⟩
    rw [hstart]
    exact List.dropWhile_cons_of_neg (by simp [hwsp])
  · have hlower : isIP (ip.map lowerByte) = true := by rw [isIP_lower, hip]
    rw [literal_normal hip]
    refine ⟨fun hat => ?_, fun _ => ⟨List.dropWhile_cons_of_neg (by decide), consumeDomain_ip hlower⟩⟩
    rcases List.mem_cons.mp hat with hat | hat
    · exact absurd hat (by decide)
    · rcases List.mem_append.mp hat with hat | hat
      · exact absurd (isIP_bytes hlower _ hat) (by decide)
      · exact absurd hat (by decide)

/-! ## Reading a normal form -/

/-- Where an address is cut is determined. -/
theorem parts_unique {a b c d : GoString} (ha : 0x40 ∉ a) (hc : 0x40 ∉ c)
    (h : a ++ 0x40 :: b = c ++ 0x40 :: d) : a = c ∧ b = d := by
  have hcut := congrArg (cut · 0x40) h
  simp only [cut_at ha, cut_at hc, Prod.mk.injEq, and_true] at hcut
  exact hcut

end Pinguin.SmtpIdentity
