/-
Pinguin.Go.MailAddressTheorems — addresses that parse to themselves.

`ParseAddress` unquotes local parts, drops comments and looks into angle
brackets and groups, and each of these makes the address shorter than the
input. So an input that is its own address is a plain `local@domain`: the
lemmas bound what every parser leaves and returns, and
`parseAddress_self` puts them together. The converse, that a plain address
parses to itself, is `parseAddress_dotAtom`.
-/
import Pinguin.Go.AsciiTheorems
import Pinguin.Go.MailAddress

namespace Pinguin.Go

variable {s rest : GoString}

/-! ## What is left is no longer than the input -/

theorem skipSpace_length (s : GoString) : (skipSpace s).length ≤ s.length :=
  (List.dropWhile_sublist _).length_le

theorem skipSpace_eq_self (h : s.length ≤ (skipSpace s).length) : skipSpace s = s :=
  (List.dropWhile_sublist _).eq_of_length_le h

theorem consume_eq {c : UInt8} (h : consume c s = some ((), rest)) : s = c :: rest := by
  cases s with
  | nil => cases h
  | cons b tail =>
    simp only [consume] at h
    split at h
    · rename_i hb
      simp only [Option.some.injEq, Prod.mk.injEq, true_and] at h
      rw [hb, h]
    · cases h

/-- An atom is cut off the front. -/
theorem atomRun_append {dot : Bool} : ∀ (fuel : Nat) {s atom rest : GoString},
    atomRun dot fuel s = some (atom, rest) → s = atom ++ rest := by
  intro fuel
  induction fuel with
  | zero =>
    intro s atom rest h
    simp only [atomRun, Option.some.injEq, Prod.mk.injEq] at h
    rw [← h.1, ← h.2, List.nil_append]
  | succ fuel ih =>
    intro s atom rest h
    simp only [atomRun] at h
    split at h
    · cases h
    · split at h
      · simp only [Option.some.injEq, Prod.mk.injEq] at h
        rw [← h.1, ← h.2, List.nil_append]
      · split at h
        · cases h
        · rename_i more later hrun
          simp only [Option.some.injEq, Prod.mk.injEq] at h
          rw [← h.1, ← h.2, List.append_assoc, ← ih hrun, List.take_append_drop]

theorem consumeAtom_some {dot permissive : Bool} {atom : GoString}
    (h : consumeAtom dot permissive s = some (atom, rest)) :
    atomRun dot s.length s = some (atom, rest) ∧ atom ≠ [] ∧
      (permissive = false → badDots atom = false) := by
  simp only [consumeAtom] at h
  split at h
  · cases h
  · cases h
  · rename_i atom' rest' hne hrun
    split at h
    · cases h
    · rename_i hdots
      simp only [Option.some.injEq, Prod.mk.injEq] at h
      obtain ⟨rfl, rfl⟩ := h
      refine ⟨hrun, fun hnil => hne hnil, ?_⟩
      intro hstrict
      simpa [hstrict] using hdots

theorem consumeAtom_append {dot permissive : Bool} {atom : GoString}
    (h : consumeAtom dot permissive s = some (atom, rest)) : s = atom ++ rest :=
  atomRun_append s.length (consumeAtom_some h).1

/-- The closing quote is consumed too. -/
theorem quotedRun_length : ∀ (fuel : Nat) (escaped : Bool) {s inner rest : GoString},
    quotedRun fuel escaped s = some (inner, rest) → inner.length + rest.length < s.length := by
  intro fuel
  induction fuel with
  | zero =>
    intro _ s inner rest h
    cases h
  | succ fuel ih =>
    intro escaped s inner rest h
    have hcut : (s.take (decodeRune s).2).length + (s.drop (decodeRune s).2).length =
        s.length := by
      rw [← List.length_append, List.take_append_drop]
    have hkeep : ∀ {escaped'}, (quotedRun fuel escaped' (s.drop (decodeRune s).2)).map
          (fun q => (s.take (decodeRune s).2 ++ q.1, q.2)) = some (inner, rest) →
        inner.length + rest.length < s.length := by
      intro escaped' hmap
      obtain ⟨⟨inner', rest'⟩, hrun, heq⟩ := Option.map_eq_some_iff.mp hmap
      simp only [Prod.mk.injEq] at heq
      have := ih escaped' hrun
      rw [← heq.1, ← heq.2, List.length_append]
      omega
    simp only [quotedRun] at h
    split at h
    · cases h
    · rename_i hwidth
      have hpos : 0 < (s.take (decodeRune s).2).length := by
        have hnil : s ≠ [] := by
          rintro rfl
          exact hwidth (.inl rfl)
        rw [List.length_take]
        have := List.length_pos_iff.mpr hnil
        omega
      split at h
      · split at h
        · exact hkeep h
        · cases h
      · split at h
        · exact hkeep h
        · split at h
          · simp only [Option.some.injEq, Prod.mk.injEq] at h
            rw [← h.1, ← h.2]
            simp only [List.length_nil]
            omega
          · split at h
            · have := ih true h
              omega
            · cases h

theorem consumeQuotedString_length {inner : GoString}
    (h : consumeQuotedString s = some (inner, rest)) (hs : s ≠ []) :
    inner.length + rest.length + 2 ≤ s.length := by
  have hrun := quotedRun_length _ _ h
  have := List.length_pos_iff.mpr hs
  rw [List.length_drop] at hrun
  omega

theorem consumeComment_length : ∀ (depth : Nat) {s comment rest : GoString},
    consumeComment depth s = some (comment, rest) → rest.length ≤ s.length := by
  intro depth s
  induction hn : s.length using Nat.strong_induction_on generalizing depth s with
  | _ n ih =>
    intro comment rest h
    cases s with
    | nil => cases h
    | cons b tail =>
      have hkeep : ∀ {c : UInt8} {depth' : Nat} {t : GoString}, t.length < n →
          (consumeComment depth' t).map (fun q => (c :: q.1, q.2)) = some (comment, rest) →
          rest.length ≤ n := by
        intro c depth' t ht hmap
        obtain ⟨⟨comment', rest'⟩, hrun, heq⟩ := Option.map_eq_some_iff.mp hmap
        simp only [Prod.mk.injEq] at heq
        have := ih t.length ht depth' rfl hrun
        rw [← heq.2]
        omega
      simp only [List.length_cons] at hn
      unfold consumeComment at h
      simp only at h
      split at h
      · split at h
        · cases h
        · rename_i c tail'
          exact hkeep (by simp only [List.length_cons] at hn; omega) h
      · split at h
        · exact hkeep (by omega) h
        · split at h
          · split at h
            · simp only [Option.some.injEq, Prod.mk.injEq] at h
              rw [← h.2]
              omega
            · exact hkeep (by omega) h
          · exact hkeep (by omega) h

theorem skipComments_length : ∀ (fuel : Nat) {s rest : GoString},
    skipComments fuel s = some rest → rest.length ≤ s.length := by
  intro fuel
  induction fuel with
  | zero =>
    intro s rest h
    simp only [skipComments, Option.some.injEq] at h
    rw [h]
  | succ fuel ih =>
    intro s rest h
    simp only [skipComments] at h
    split at h
    · simp only [Option.some.injEq] at h
      rw [h]
    · rename_i inner hopen
      split at h
      · cases h
      · rename_i comment inner' hcomment
        have hinner := consumeComment_length 1 hcomment
        have hskip := skipSpace_length inner'
        have hmore := ih h
        rw [consume_eq hopen, List.length_cons]
        omega

theorem skipCFWS_length (h : skipCFWS s = some rest) : rest.length ≤ s.length :=
  Nat.le_trans (skipComments_length _ h) (skipSpace_length s)

theorem phraseWord_length {word : GoString} {encoded : Bool}
    (h : phraseWord s = .ok (word, encoded, rest)) (hs : s ≠ []) : rest.length ≤ s.length := by
  unfold phraseWord at h
  split at h
  · split at h
    · cases h
    · rename_i inner rest' hquoted
      cases h
      have := consumeQuotedString_length hquoted hs
      omega
  · split at h
    · cases h
    · rename_i atom rest' hatom
      have hcut := congrArg List.length (consumeAtom_append hatom)
      rw [List.length_append] at hcut
      split at h
      · cases h; omega
      · cases h; omega
      · cases h

theorem phraseWord_error_length (h : phraseWord s = .error rest) : rest.length ≤ s.length := by
  unfold phraseWord at h
  split at h
  · split at h
    · cases h; exact Nat.le_refl _
    · cases h
  · split at h
    · cases h; exact Nat.le_refl _
    · rename_i atom rest' hatom
      have hcut := congrArg List.length (consumeAtom_append hatom)
      rw [List.length_append] at hcut
      split at h
      · cases h
      · cases h
      · cases h; omega

theorem phraseWords_length : ∀ (fuel : Nat) (words : List GoString) (prevEncoded : Bool)
    {s : GoString} {words' : List GoString} {rest : GoString},
    phraseWords fuel words prevEncoded s = some (words', rest) → rest.length ≤ s.length := by
  intro fuel
  induction fuel with
  | zero =>
    intro words prevEncoded s words' rest h
    simp only [phraseWords, Option.some.injEq, Prod.mk.injEq] at h
    rw [h.2]
  | succ fuel ih =>
    intro words prevEncoded s words' rest h
    simp only [phraseWords] at h
    split at h
    · cases h
    · rename_i start hstart
      have hlen : start.length ≤ s.length := by
        split at hstart
        · cases hstart; exact Nat.le_refl _
        · exact skipCFWS_length hstart
      have hskip := skipSpace_length start
      split at h
      · simp only [Option.some.injEq, Prod.mk.injEq] at h
        rw [← h.2]
        omega
      · rename_i hne
        split at h
        · rename_i word encoded rest' hword
          have hleft := phraseWord_length hword hne
          have hmore := ih _ _ h
          omega
        · rename_i rest' hbad
          have hleft := phraseWord_error_length hbad
          split at h
          · cases h
          · simp only [Option.some.injEq, Prod.mk.injEq] at h
            rw [← h.2]
            omega

theorem consumePhrase_length {phrase : GoString} (h : consumePhrase s = some (phrase, rest)) :
    rest.length ≤ s.length := by
  obtain ⟨⟨words, rest'⟩, hwords, heq⟩ := Option.map_eq_some_iff.mp h
  simp only [Prod.mk.injEq] at heq
  rw [← heq.2]
  exact phraseWords_length _ _ _ hwords

theorem dtextRun_append : ∀ (fuel : Nat) {s dtext rest : GoString},
    dtextRun fuel s = some (dtext, rest) → s = dtext ++ rest ∧ rest.head? = some 0x5D := by
  intro fuel
  induction fuel with
  | zero =>
    intro s dtext rest h
    cases h
  | succ fuel ih =>
    intro s dtext rest h
    simp only [dtextRun] at h
    split at h
    · cases h
    · split at h
      · rename_i hclose
        simp only [Option.some.injEq, Prod.mk.injEq] at h
        rw [← h.1, ← h.2]
        exact ⟨rfl, hclose⟩
      · split at h
        · cases h
        · obtain ⟨⟨dtext', rest'⟩, hrun, heq⟩ := Option.map_eq_some_iff.mp h
          simp only [Prod.mk.injEq] at heq
          obtain ⟨happend, hclose⟩ := ih hrun
          rw [← heq.1, ← heq.2, List.append_assoc, ← happend, List.take_append_drop]
          exact ⟨rfl, hclose⟩

/-- A domain is cut off the front, brackets and all. -/
theorem consumeDomain_append {domain : GoString} (h : consumeDomain s = some (domain, rest)) :
    s = domain ++ rest := by
  unfold consumeDomain at h
  split at h
  · simp only [consumeDomainLiteral] at h
    split at h
    · cases h
    · rename_i inner hopen
      split at h
      · cases h
      · rename_i dtext close hrun
        obtain ⟨happend, hclose⟩ := dtextRun_append _ hrun
        split at h
        · simp only [Option.some.injEq, Prod.mk.injEq] at h
          obtain ⟨tail, rfl⟩ : ∃ tail, close = 0x5D :: tail := by
            cases close with
            | nil => cases hclose
            | cons b tail =>
              simp only [List.head?_cons, Option.some.injEq] at hclose
              exact ⟨tail, by rw [hclose]⟩
          rw [← h.1, ← h.2, consume_eq hopen, happend]
          simp
        · cases h
  · exact consumeAtom_append h

/-! ## Addresses are no longer than the input -/

/-- The three parts of an addr-spec. -/
theorem consumeAddrSpec_some {spec : GoString} (h : consumeAddrSpec s = some (spec, rest)) :
    ∃ localPart afterLocal domain, consumeLocalPart (skipSpace s) =
        some (localPart, 0x40 :: afterLocal) ∧
      consumeDomain (skipSpace afterLocal) = some (domain, rest) ∧
      spec = localPart ++ [0x40] ++ domain := by
  simp only [consumeAddrSpec] at h
  split at h
  · cases h
  · rename_i localPart afterLocal hlocal
    split at h
    · cases h
    · rename_i inner hat
      rw [consume_eq hat] at hlocal
      split at h
      · cases h
      · rename_i domain rest' hdomain
        simp only [Option.some.injEq, Prod.mk.injEq] at h
        exact ⟨localPart, inner, domain, hlocal, h.2 ▸ hdomain, h.1.symm⟩

/-- A quoted local part loses its quotes; any other is a dot-atom. -/
theorem consumeLocalPart_some {localPart : GoString}
    (h : consumeLocalPart s = some (localPart, rest)) :
    localPart.length + rest.length + 2 ≤ s.length ∨
      consumeAtom true false s = some (localPart, rest) := by
  unfold consumeLocalPart at h
  split at h
  · rename_i hquote
    have hs : s ≠ [] := by
      rintro rfl
      cases hquote
    split at h
    · cases h
    · exact .inl (consumeQuotedString_length h hs)
  · exact .inr h

theorem consumeAddrSpec_length {spec : GoString} (h : consumeAddrSpec s = some (spec, rest)) :
    spec.length + rest.length ≤ s.length := by
  obtain ⟨localPart, afterLocal, domain, hlocal, hdomain, rfl⟩ := consumeAddrSpec_some h
  have hspace := skipSpace_length s
  have hspace' := skipSpace_length afterLocal
  have hdom := congrArg List.length (consumeDomain_append hdomain)
  simp only [List.length_append, List.length_singleton] at hdom ⊢
  rcases consumeLocalPart_some hlocal with hquoted | hatom
  · rw [List.length_cons] at hquoted
    omega
  · have hcut := congrArg List.length (consumeAtom_append hatom)
    rw [List.length_append, List.length_cons] at hcut
    omega

/-- A parser of addresses shortens: every address is shorter than the input
by what is left of it. -/
def Shortens (parser : AddrParser (List MailAddress)) : Prop :=
  ∀ s addrs rest, parser s = some (addrs, rest) → ∀ addr ∈ addrs, addr.address.length ≤ s.length

/-- An address is the addr-spec the input begins with, or it is shorter. -/
theorem parseAddressWith_some {onColon : Option (AddrParser (List MailAddress))}
    (hcolon : ∀ parser ∈ onColon, Shortens parser) {addrs : List MailAddress}
    (h : parseAddressWith onColon s = some (addrs, rest)) {addr : MailAddress}
    (haddr : addr ∈ addrs) :
    (∃ left, consumeAddrSpec (skipSpace s) = some (addr.address, left)) ∨
      addr.address.length < s.length := by
  have hspace := skipSpace_length s
  simp only [parseAddressWith] at h
  split at h
  · cases h
  · split at h
    · rename_i spec left hspec
      refine .inl ⟨left, ?_⟩
      have : addr.address = spec := by
        split at h
        · obtain ⟨⟨name, left'⟩, -, heq⟩ := Option.map_eq_some_iff.mp h
          simp only [Prod.mk.injEq] at heq
          rw [← heq.1, List.mem_singleton] at haddr
          rw [haddr]
        · simp only [Option.some.injEq, Prod.mk.injEq] at h
          rw [← h.1, List.mem_singleton] at haddr
          rw [haddr]
      rw [this]
      exact hspec
    · right
      split at h
      · cases h
      · rename_i displayName afterName hname
        have hafter : afterName.length ≤ (skipSpace s).length := by
          split at hname
          · cases hname; exact Nat.le_refl _
          · exact consumePhrase_length hname
        have hskip := skipSpace_length afterName
        split at h
        · -- a group: its members come after the colon
          rename_i parser inside hopen
          have hinside := congrArg List.length (consume_eq hopen)
          rw [List.length_cons] at hinside
          have := hcolon parser rfl inside addrs rest h addr haddr
          omega
        · split at h
          · cases h
          · rename_i inner hopen
            have hinner := congrArg List.length (consume_eq hopen)
            rw [List.length_cons] at hinner
            split at h
            · cases h
            · rename_i spec left hspec
              obtain ⟨⟨⟨⟩, left'⟩, -, heq⟩ := Option.map_eq_some_iff.mp h
              simp only [Prod.mk.injEq] at heq
              rw [← heq.1, List.mem_singleton] at haddr
              rw [haddr]
              have := consumeAddrSpec_length hspec
              show spec.length < s.length
              omega

theorem shortens_parseAddressWith {onColon : Option (AddrParser (List MailAddress))}
    (hcolon : ∀ parser ∈ onColon, Shortens parser) : Shortens (parseAddressWith onColon) := by
  intro s addrs rest h addr haddr
  rcases parseAddressWith_some hcolon h haddr with ⟨left, hspec⟩ | hshort
  · have := consumeAddrSpec_length hspec
    have := skipSpace_length s
    omega
  · exact Nat.le_of_lt hshort

theorem consumeDisplayNameComment_length {name : GoString}
    (h : consumeDisplayNameComment s = some (name, rest)) : rest.length ≤ s.length := by
  simp only [consumeDisplayNameComment] at h
  split at h
  · cases h
  · rename_i inner hopen
    split at h
    · cases h
    · rename_i comment left hcomment
      obtain ⟨words, -, heq⟩ := Option.map_eq_some_iff.mp h
      simp only [Prod.mk.injEq] at heq
      have hlen := consumeComment_length 1 hcomment
      rw [← heq.2, consume_eq hopen, List.length_cons]
      omega

/-- What a single address leaves, outside of groups. -/
theorem parseAddressWith_left {addrs : List MailAddress}
    (h : parseAddressWith none s = some (addrs, rest)) : rest.length ≤ s.length := by
  have hspace := skipSpace_length s
  simp only [parseAddressWith] at h
  split at h
  · cases h
  · split at h
    · rename_i spec left hspec
      have hlen := consumeAddrSpec_length hspec
      have hleft := skipSpace_length left
      split at h
      · obtain ⟨⟨name, left'⟩, hname, heq⟩ := Option.map_eq_some_iff.mp h
        simp only [Prod.mk.injEq] at heq
        have := consumeDisplayNameComment_length hname
        rw [← heq.2]
        show left'.length ≤ s.length
        omega
      · simp only [Option.some.injEq, Prod.mk.injEq] at h
        rw [← h.2]
        omega
    · split at h
      · cases h
      · rename_i displayName afterName hname
        have hafter : afterName.length ≤ (skipSpace s).length := by
          split at hname
          · cases hname; exact Nat.le_refl _
          · exact consumePhrase_length hname
        have hskip := skipSpace_length afterName
        split at h
        · cases h
        · rename_i inner hopen
          have hinner := congrArg List.length (consume_eq hopen)
          rw [List.length_cons] at hinner
          split at h
          · cases h
          · rename_i spec left hspec
            obtain ⟨⟨⟨⟩, left'⟩, hclose, heq⟩ := Option.map_eq_some_iff.mp h
            simp only [Prod.mk.injEq] at heq
            have hlen := consumeAddrSpec_length hspec
            have hend := congrArg List.length (consume_eq hclose)
            rw [List.length_cons] at hend
            rw [← heq.2]
            show left'.length ≤ s.length
            omega

theorem shortens_groupMembers (fuel : Nat) : Shortens (groupMembers fuel) := by
  induction fuel with
  | zero =>
    intro s addrs rest h
    cases h
  | succ fuel ih =>
    intro s addrs rest h addr haddr
    have hnone : ∀ parser ∈ (none : Option (AddrParser (List MailAddress))), Shortens parser := by
      intro parser hparser
      cases hparser
    simp only [groupMembers] at h
    split at h
    · cases h
    · rename_i first left hfirst
      have hshort := shortens_parseAddressWith hnone _ _ _ hfirst
      have hspace := skipSpace_length s
      split at h
      · cases h
      · rename_i left' hleft
        split at h
        · obtain ⟨s', -, heq⟩ := Option.map_eq_some_iff.mp h
          simp only [Prod.mk.injEq] at heq
          have := hshort addr (heq.1 ▸ haddr)
          omega
        · rename_i after _ hcomma
          obtain ⟨⟨more, s'⟩, hmore, heq⟩ := Option.map_eq_some_iff.mp h
          simp only [Prod.mk.injEq] at heq
          rw [← heq.1] at haddr
          rcases List.mem_append.mp haddr with haddr | haddr
          · have := hshort addr haddr
            omega
          · -- the later members were read from what is left after the comma
            have hrec := ih _ _ _ hmore addr haddr
            have hafter := congrArg List.length (consume_eq hcomma)
            rw [List.length_cons] at hafter
            have hcfws := skipCFWS_length hleft
            have hparse := parseAddressWith_left hfirst
            omega
        · cases h

theorem shortens_consumeGroupList : Shortens consumeGroupList := by
  intro s addrs rest h addr haddr
  simp only [consumeGroupList] at h
  split at h
  · obtain ⟨s', -, heq⟩ := Option.map_eq_some_iff.mp h
    simp only [Prod.mk.injEq] at heq
    rw [← heq.1] at haddr
    cases haddr
  · have := shortens_groupMembers _ _ _ _ h addr haddr
    have := skipSpace_length s
    omega

/-! ## Inputs that are their own address -/

/-- An input that `ParseAddress` reads back unchanged is a strict dot-atom,
an `@` and a domain. -/
theorem parseAddress_self {name : GoString} (h : parseAddress s = some ⟨name, s⟩) :
    ∃ localPart domain, s = localPart ++ 0x40 :: domain ∧
      consumeAtom true false s = some (localPart, 0x40 :: domain) ∧
      consumeDomain domain = some (domain, []) := by
  obtain ⟨left, hspec⟩ : ∃ left, consumeAddrSpec (skipSpace s) = some (s, left) := by
    unfold parseAddress at h
    split at h
    · rename_i addr rest hparse
      split at h
      · cases h
        have hgroup : ∀ parser ∈ some consumeGroupList, Shortens parser := by
          intro parser hparser
          cases hparser
          exact shortens_consumeGroupList
        rcases parseAddressWith_some hgroup hparse (List.mem_singleton.mpr rfl) with hspec | hshort
        · exact hspec
        · exact absurd hshort (Nat.lt_irrefl _)
      · cases h
    · cases h
  have hlen := consumeAddrSpec_length hspec
  have hself : skipSpace s = s := skipSpace_eq_self (by omega)
  rw [hself] at hspec
  obtain ⟨localPart, afterLocal, domain, hlocal, hdomain, hs⟩ := consumeAddrSpec_some hspec
  rw [hself] at hlocal
  have hslen := congrArg List.length hs
  have hdom := congrArg List.length (consumeDomain_append hdomain)
  have hspace := skipSpace_length afterLocal
  simp only [List.length_append, List.length_singleton] at hslen hdom
  rcases consumeLocalPart_some hlocal with hquoted | hatom
  · rw [List.length_cons] at hquoted
    omega
  · have hcut := consumeAtom_append hatom
    have hcutlen := congrArg List.length hcut
    rw [List.length_append, List.length_cons] at hcutlen
    have hskip : skipSpace afterLocal = afterLocal := skipSpace_eq_self (by omega)
    rw [hskip] at hdomain hdom
    have hleft : left = [] := List.length_eq_zero_iff.mp (by omega)
    subst hleft
    have hafter : afterLocal = domain := by
      simpa using consumeDomain_append hdomain
    subst hafter
    exact ⟨localPart, afterLocal, hcut, hatom, hdomain⟩

/-! ## Dot-atoms in ASCII -/

/-- A strict dot-atom of ASCII bytes. -/
structure DotAtom (atom : GoString) : Prop where
  ascii : isASCII atom = true
  nonempty : atom ≠ []
  atext : ∀ b ∈ atom, isAtext b.toNat true = true
  dots : badDots atom = false

/-- What an atom byte is not. -/
theorem atext_byte : ∀ b : UInt8, b.toNat < 128 → isAtext b.toNat true = true →
    isWSP b = false ∧ b ≠ 0x22 ∧ b ≠ 0x5B ∧ b ≠ 0x40 ∧ isSpace b.toNat = false :=
  forall_ascii (by decide)

theorem isAtext_lowerByte : ∀ b : UInt8, b.toNat < 128 →
    isAtext (lowerByte b).toNat true = isAtext b.toNat true :=
  forall_ascii (by decide)

theorem lowerByte_eq_dot : ∀ b : UInt8, b.toNat < 128 → (lowerByte b = 0x2E ↔ b = 0x2E) :=
  forall_ascii (by decide)

theorem DotAtom.visible {atom : GoString} (h : DotAtom atom) : Visible atom := by
  intro b hb
  have hlt := isASCII_iff.mp h.ascii b hb
  exact ⟨hlt, (atext_byte b hlt (h.atext b hb)).2.2.2.2⟩

/-- On ASCII input the atom is the longest run of atom bytes. -/
theorem atomRun_ascii (dot : Bool) (fuel : Nat) (s : GoString) (hascii : isASCII s = true)
    (hfuel : s.length ≤ fuel) : atomRun dot fuel s =
      some (s.takeWhile (isAtext ·.toNat dot), s.dropWhile (isAtext ·.toNat dot)) := by
  induction fuel generalizing s with
  | zero =>
    have hnil : s = [] := List.eq_nil_of_length_eq_zero (by omega)
    subst hnil
    rfl
  | succ fuel ih =>
    cases s with
    | nil => rfl
    | cons b rest =>
      simp only [isASCII_cons, Bool.and_eq_true, decide_eq_true_eq] at hascii
      have hvalid : isInvalidRune (b.toNat, 1) = false := by
        have : b.toNat ≠ runeError := by
          unfold runeError
          omega
        simp [isInvalidRune, this]
      have hrest := ih rest hascii.2 (by simpa using hfuel)
      cases hatext : isAtext b.toNat dot with
      | false => simp [atomRun, decodeRune_ascii b rest hascii.1, hvalid, hatext]
      | true => simp [atomRun, decodeRune_ascii b rest hascii.1, hvalid, hatext, hrest]

theorem dotAtom_of_consumeAtom {atom : GoString} (hascii : isASCII s = true)
    (h : consumeAtom true false s = some (atom, rest)) : DotAtom atom := by
  obtain ⟨hrun, hne, hdots⟩ := consumeAtom_some h
  rw [atomRun_ascii true _ s hascii (Nat.le_refl _), Option.some.injEq, Prod.mk.injEq] at hrun
  refine ⟨?_, hne, ?_, hdots rfl⟩
  · rw [← hrun.1]
    exact isASCII_of_subset hascii fun b hb => (List.takeWhile_sublist _).subset hb
  · intro b hb
    rw [← hrun.1] at hb
    exact List.mem_takeWhile_imp (p := fun b : UInt8 => isAtext b.toNat true) hb

/-- A dot-atom is read whole when something else follows. -/
theorem DotAtom.consumeAtom {atom : GoString} (h : DotAtom atom) (hrest : isASCII rest = true)
    (hstop : ∀ b tail, rest = b :: tail → isAtext b.toNat true = false) :
    consumeAtom true false (atom ++ rest) = some (atom, rest) := by
  have htake : (atom ++ rest).takeWhile (isAtext ·.toNat true) = atom := by
    rw [List.takeWhile_append_of_pos h.atext]
    cases rest with
    | nil => simp
    | cons b tail => simp [hstop b tail rfl]
  have hdrop : (atom ++ rest).dropWhile (isAtext ·.toNat true) = rest := by
    have := List.takeWhile_append_dropWhile (p := fun b : UInt8 => isAtext b.toNat true)
      (l := atom ++ rest)
    rw [htake] at this
    exact List.append_cancel_left this
  have hascii : isASCII (atom ++ rest) = true := by
    rw [isASCII_append, h.ascii, hrest]
    rfl
  have hne := h.nonempty
  simp only [Go.consumeAtom, atomRun_ascii true _ _ hascii (Nat.le_refl _), htake, hdrop]
  cases atom with
  | nil => exact absurd rfl hne
  | cons b tail => simp [h.dots]

theorem skipSpace_dotAtom {atom : GoString} (h : DotAtom atom) (rest : GoString) :
    skipSpace (atom ++ rest) = atom ++ rest ∧
      ∃ b tail, atom ++ rest = b :: tail ∧ b ≠ 0x22 ∧ b ≠ 0x5B := by
  cases hatom : atom with
  | nil => exact absurd hatom h.nonempty
  | cons b tail =>
    have hmem : b ∈ atom := by rw [hatom]; exact List.mem_cons_self
    obtain ⟨hwsp, hquote, hbracket, -, -⟩ :=
      atext_byte b (isASCII_iff.mp h.ascii b hmem) (h.atext b hmem)
    exact ⟨List.dropWhile_cons_of_neg (by simp [hwsp]), b, tail ++ rest, rfl, hquote, hbracket⟩

/-- A local part that is read whole, an `@` and a domain that is read whole
are an address that parses to itself. -/
theorem parseAddress_of_parts {localPart domain : GoString}
    (hstart : ∃ b tail, localPart = b :: tail ∧ isWSP b = false ∧ b ≠ 0x22)
    (hlocal : consumeAtom true false (localPart ++ 0x40 :: domain) =
      some (localPart, 0x40 :: domain))
    (hspace : skipSpace domain = domain) (hdomain : consumeDomain domain = some (domain, [])) :
    parseAddress (localPart ++ 0x40 :: domain) = some ⟨[], localPart ++ 0x40 :: domain⟩ := by
  obtain ⟨b, tail, hb, hwsp, hquote⟩ := hstart
  have hhead : (localPart ++ 0x40 :: domain).head? ≠ some 0x22 := by
    rw [hb]
    simpa using hquote
  have hskip : skipSpace (localPart ++ 0x40 :: domain) = localPart ++ 0x40 :: domain := by
    rw [hb]
    exact List.dropWhile_cons_of_neg (by simp [hwsp])
  have hatLocal : consumeLocalPart (localPart ++ 0x40 :: domain) =
      some (localPart, 0x40 :: domain) := by
    rw [consumeLocalPart, if_neg hhead, hlocal]
  have hspec : consumeAddrSpec (localPart ++ 0x40 :: domain) =
      some (localPart ++ 0x40 :: domain, []) := by
    simp [consumeAddrSpec, hskip, hatLocal, consume, hspace, hdomain]
  have hne : localPart ++ 0x40 :: domain ≠ [] := by simp
  have hparse : parseAddressOrGroup (localPart ++ 0x40 :: domain) =
      some ([⟨[], localPart ++ 0x40 :: domain⟩], []) := by
    simp only [parseAddressOrGroup, parseAddressWith, hskip, if_neg hne, hspec]
    rfl
  rw [parseAddress, hparse]
  rfl

/-- A dot-atom, an `@` and a dot-atom are an address that parses to itself. -/
theorem parseAddress_dotAtom {localPart domain : GoString} (hlocal : DotAtom localPart)
    (hdomain : DotAtom domain) : parseAddress (localPart ++ 0x40 :: domain) =
      some ⟨[], localPart ++ 0x40 :: domain⟩ := by
  obtain ⟨b, tail, hstart⟩ := List.exists_cons_of_ne_nil hlocal.nonempty
  have hmem : b ∈ localPart := hstart ▸ List.mem_cons_self
  obtain ⟨hwsp, hquote, -⟩ := atext_byte b (isASCII_iff.mp hlocal.ascii b hmem) (hlocal.atext b hmem)
  have hatDomain : consumeDomain domain = some (domain, []) := by
    obtain ⟨-, b, tail, heq, -, hbracket⟩ := skipSpace_dotAtom hdomain []
    rw [List.append_nil] at heq
    have hhead : domain.head? ≠ some 0x5B := by
      rw [heq]
      simpa using hbracket
    have hconsume : consumeAtom true false (domain ++ []) = some (domain, []) :=
      hdomain.consumeAtom rfl fun b tail h => nomatch h
    rw [List.append_nil] at hconsume
    rw [consumeDomain, if_neg hhead, hconsume]
  refine parseAddress_of_parts ⟨b, tail, hstart, hwsp, hquote⟩ (hlocal.consumeAtom ?_ ?_) ?_ hatDomain
  · rw [isASCII_cons, hdomain.ascii]
    rfl
  · rintro b tail ⟨⟩
    decide
  · simpa using (skipSpace_dotAtom hdomain []).1

/-! ## Domains in ASCII -/

theorem dtextRun_visible (fuel : Nat) {s dtext rest : GoString} (hascii : isASCII s = true)
    (h : dtextRun fuel s = some (dtext, rest)) : Visible dtext := by
  induction fuel generalizing s dtext rest with
  | zero => cases h
  | succ fuel ih =>
    cases s with
    | nil => cases h
    | cons c tail =>
      simp only [isASCII_cons, Bool.and_eq_true, decide_eq_true_eq] at hascii
      have hbyte : ∀ b : UInt8, b.toNat < 128 → isDtext b.toNat = true → isSpace b.toNat = false :=
        forall_ascii (by decide)
      simp only [dtextRun, decodeRune_ascii c tail hascii.1, List.cons_ne_nil, if_false] at h
      split at h
      · simp only [Option.some.injEq, Prod.mk.injEq] at h
        rw [← h.1]
        exact fun b hb => absurd hb List.not_mem_nil
      · split at h
        · cases h
        · rename_i hdtext
          simp only [Bool.or_eq_true, not_or, Bool.not_eq_true', Bool.not_eq_false] at hdtext
          obtain ⟨⟨dtext', rest'⟩, hrun, heq⟩ := Option.map_eq_some_iff.mp h
          simp only [Prod.mk.injEq] at heq
          rw [← heq.1]
          intro b hb
          rcases List.mem_cons.mp (by simpa using hb) with rfl | hb
          · exact ⟨hascii.1, hbyte b hascii.1 hdtext.2⟩
          · exact ih hascii.2 hrun b hb

/-- A domain has no white bytes. -/
theorem consumeDomain_visible {domain : GoString} (hascii : isASCII s = true)
    (h : consumeDomain s = some (domain, rest)) : Visible domain := by
  unfold consumeDomain at h
  split at h
  · simp only [consumeDomainLiteral] at h
    split at h
    · cases h
    · rename_i inner hopen
      rw [consume_eq hopen, isASCII_cons, Bool.and_eq_true] at hascii
      split at h
      · cases h
      · rename_i dtext close hrun
        split at h
        · simp only [Option.some.injEq, Prod.mk.injEq] at h
          rw [← h.1]
          intro b hb
          simp only [List.cons_append, List.nil_append, List.mem_cons, List.mem_append,
            List.not_mem_nil, or_false] at hb
          rcases hb with rfl | hb | rfl
          · decide
          · exact dtextRun_visible _ hascii.2 hrun b hb
          · decide
        · cases h
  · exact (dotAtom_of_consumeAtom hascii h).visible

/-! ## Lower case -/

theorem contains_cons (b : UInt8) (rest sub : GoString) :
    contains (b :: rest) sub = (sub.isPrefixOf (b :: rest) || contains rest sub) := by
  simp [contains, List.tails]

theorem contains_dots_lower (s : GoString) (hascii : isASCII s = true) :
    contains (s.map lowerByte) ".." = contains s ".." := by
  induction s with
  | nil => rfl
  | cons b rest ih =>
    simp only [isASCII_cons, Bool.and_eq_true, decide_eq_true_eq] at hascii
    have hdots : lit ".." = [0x2E, 0x2E] := by decide
    have hbyte : ∀ b : UInt8, b.toNat < 128 → (0x2E == lowerByte b) = (0x2E == b) :=
      forall_ascii (by decide)
    rw [List.map_cons, contains_cons, contains_cons, ih hascii.2, hdots]
    congr 1
    cases rest with
    | nil => simp [List.isPrefixOf]
    | cons c tail =>
      simp only [isASCII_cons, Bool.and_eq_true, decide_eq_true_eq] at hascii
      simp only [List.map_cons, List.isPrefixOf, hbyte b hascii.1, hbyte c hascii.2.1]

theorem DotAtom.lower {atom : GoString} (h : DotAtom atom) : DotAtom (atom.map lowerByte) := by
  have hascii := isASCII_iff.mp h.ascii
  refine ⟨isASCII_map_lowerByte h.ascii, ?_, ?_, ?_⟩
  · simpa using h.nonempty
  · intro b hb
    obtain ⟨a, ha, rfl⟩ := List.mem_map.mp hb
    rw [isAtext_lowerByte a (hascii a ha)]
    exact h.atext a ha
  · have hend : ∀ end? : Option UInt8, (∀ b ∈ end?, b ∈ atom) →
        (decide (end?.map lowerByte = some 0x2E)) = decide (end? = some 0x2E) := by
      intro end? hmem
      cases end? with
      | none => rfl
      | some b => simp [lowerByte_eq_dot b (hascii b (hmem b rfl))]
    have hdots := h.dots
    rw [badDots] at hdots ⊢
    rw [List.head?_map, List.getLast?_map, contains_dots_lower atom h.ascii,
      hend _ (fun b hb => List.mem_of_head? hb), hend _ (fun b hb => List.mem_of_getLast? hb)]
    exact hdots

end Pinguin.Go
