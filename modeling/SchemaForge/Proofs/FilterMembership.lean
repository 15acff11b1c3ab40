import Mathlib.Data.List.Forall2
import Mathlib.Data.List.TakeWhile
import SchemaForge.Proofs.DottedQuads
import SchemaForge.Refinement.Basic

/-!
# Meaning of allow and deny lists

Filters normalize their entries, drop those that they cannot read, compare a single entry directly
and negate the comparison to deny. What comes out is membership: a value passes an allow list
exactly when its subject matches an entry, and a deny list exactly when its subject matches none.
Which subject a value has and which entries match it are stated here without the functions that
parse the one and without the predicates that the others are made into. How URLs are read is left
open.
-/

namespace SchemaForge

/-! ### Ends of texts -/

namespace Text

/-- What is left of a list whose end is dropped as long as it belongs to a class. -/
lemma dropEndWhile_eq_iff (p : Char → Bool) (cs base : List Char) :
    dropEndWhile p cs = base ↔
      ∃ dropped, cs = base ++ dropped ∧ (∀ c ∈ dropped, p c = true) ∧
        ∀ c ∈ base.getLast?, p c = false := by
  unfold dropEndWhile
  constructor
  · rintro rfl
    refine ⟨(cs.reverse.takeWhile p).reverse, ?_, ?_, ?_⟩
    · rw [← List.reverse_append, List.takeWhile_append_dropWhile, List.reverse_reverse]
    · intro c hc
      exact List.mem_takeWhile_imp (List.mem_reverse.mp hc)
    · intro c hc
      rw [List.getLast?_reverse] at hc
      have hhead := List.head?_dropWhile_not p cs.reverse
      rw [Option.mem_def.mp hc] at hhead
      exact hhead
  · rintro ⟨dropped, rfl, hdropped, hbase⟩
    have hall : ∀ c ∈ dropped.reverse, p c = true := fun c hc => hdropped c (List.mem_reverse.mp hc)
    rw [List.reverse_append, List.dropWhile_append_of_pos hall]
    have hkept : base.reverse.dropWhile p = base.reverse := by
      cases hlist : base.reverse with
      | nil => rfl
      | cons c rest =>
        have hlast : c ∈ base.getLast? := by
          rw [← List.head?_reverse, hlist]
          rfl
        rw [List.dropWhile_cons_of_neg (by simp [hbase c hlast])]
    rw [hkept, List.reverse_reverse]

end Text

/-! ### Subjects of values -/

/-- The ports of schemes for URLs that give none. -/
def knownPorts : List (String × UInt16) :=
  [("http", 80), ("https", 443), ("ws", 80), ("wss", 443), ("ftp", 21)]

/-- What a subject of a value is, given how URLs are read. -/
inductive IsSubject (readUrl : String → Option Url) (value : String) : Subject → Operand → Prop
  | whole : IsSubject readUrl value .value (.text value)
  | quad {n : Nat} (h : Ipv4.IsQuad value.toList n) :
    IsSubject readUrl value .ipv4Number (.number n)
  | lower : IsSubject readUrl value .ipv6 (.text (Text.lower value))
  | upper :
    IsSubject readUrl value .mac
      (.text ((Text.upper value).map fun c => if c = '-' then ':' else c))
  | domain {front domain : String} (h : value = front ++ "@" ++ domain)
    (hlast : '@' ∉ domain.toList) :
    IsSubject readUrl value .emailDomain (.text (Text.lower domain))
  | scheme {u : Url} (h : readUrl value = some u) :
    IsSubject readUrl value .urlProtocol (.text u.scheme)
  | host {u : Url} (h : readUrl value = some u) :
    IsSubject readUrl value .urlHostname (.text u.host)
  | port {u : Url} {p : UInt16} (h : readUrl value = some u) (hp : u.port = some p) :
    IsSubject readUrl value .urlPort (.number p.toNat)
  | knownPort {u : Url} {p : UInt16} (h : readUrl value = some u) (hnone : u.port = none)
    (hp : (u.scheme, p) ∈ knownPorts) :
    IsSubject readUrl value .urlPort (.number p.toNat)
  | path {u : Url} (h : readUrl value = some u) :
    IsSubject readUrl value .urlPath (.text u.path)

lemma normalizeMac_eq (mac : String) :
    normalizeMac mac = (Text.upper mac).map fun c => if c = '-' then ':' else c := by
  rw [← String.toList_inj, String.toList_map, normalizeMac, String.toList_ofList]

lemma afterAt?_eq_some_iff {value domain : String} :
    afterAt? value = some domain ↔
      (∃ front, value = front ++ "@" ++ domain) ∧ '@' ∉ domain.toList := by
  have hat : "@".toList = ['@'] := rfl
  unfold afterAt?
  dsimp only
  constructor
  · intro h
    split_ifs at h with hmem
    cases h
    rw [String.toList_ofList]
    constructor
    · -- The reversed text is what follows the last sign, the sign, and what precedes it.
      have hsplit := List.takeWhile_append_dropWhile (p := (· ≠ '@')) (l := value.toList.reverse)
      have hhead := List.head?_dropWhile_not (· ≠ '@') value.toList.reverse
      cases hrest : value.toList.reverse.dropWhile (· ≠ '@') with
      | nil =>
        have hall := List.dropWhile_eq_nil_iff.mp hrest '@'
        simp [List.contains_iff_mem.mp hmem] at hall
      | cons c front =>
        rw [hrest] at hsplit hhead
        obtain rfl : c = '@' := by simpa using hhead
        refine ⟨String.ofList front.reverse, ?_⟩
        rw [← String.toList_inj, String.toList_append, String.toList_append, hat,
          String.toList_ofList, String.toList_ofList]
        simpa using (congrArg List.reverse hsplit).symm
    · intro hin
      have hne := List.mem_takeWhile_imp (List.mem_reverse.mp hin)
      simp at hne
  · rintro ⟨⟨front, rfl⟩, hnot⟩
    have hmem : (front ++ "@" ++ domain).toList.contains '@' = true := by simp [hat]
    have hall : ∀ c ∈ domain.toList.reverse, decide (c ≠ '@') = true := by
      intro c hc
      rw [decide_eq_true_eq]
      rintro rfl
      exact hnot (List.mem_reverse.mp hc)
    rw [if_pos hmem]
    simp only [String.toList_append, hat, List.reverse_append, List.append_assoc]
    rw [List.takeWhile_append_of_pos hall]
    simp

lemma Url.defaultPort_eq_some_iff {scheme : String} {p : UInt16} :
    defaultPort scheme = some p ↔ (scheme, p) ∈ knownPorts := by
  constructor
  · intro h
    have hlookup : webSchemes.lookup scheme = some (some p) := Option.join_eq_some_iff.mp h
    obtain ⟨front, back, hsplit, -⟩ := List.lookup_eq_some_iff.mp hlookup
    have hmem : (scheme, some p) ∈ webSchemes := by simp [hsplit]
    simpa [webSchemes, knownPorts] using hmem
  · have hall : ∀ e ∈ knownPorts, defaultPort e.1 = some e.2 := by decide
    exact hall (scheme, p)

namespace Subject

variable {readUrl : String → Option Url} {value : String} {subject : Subject} {s : Operand}

lemma isSubject_of_parse? (h : subject.parse? readUrl value = some s) :
    IsSubject readUrl value subject s := by
  cases subject with
  | value =>
    cases h
    exact .whole
  | ipv4Number =>
    obtain ⟨n, hn, rfl⟩ := Option.map_eq_some_iff.mp h
    exact .quad (Ipv4.addressOfChars?_eq_some_iff.mp hn)
  | ipv6 =>
    cases h
    exact .lower
  | mac =>
    cases h
    rw [normalizeMac_eq]
    exact .upper
  | emailDomain =>
    obtain ⟨domain, hdomain, rfl⟩ := Option.map_eq_some_iff.mp h
    obtain ⟨⟨front, hvalue⟩, hlast⟩ := afterAt?_eq_some_iff.mp hdomain
    exact .domain hvalue hlast
  | urlProtocol =>
    obtain ⟨u, hu, rfl⟩ := Option.map_eq_some_iff.mp h
    exact .scheme hu
  | urlHostname =>
    obtain ⟨u, hu, rfl⟩ := Option.map_eq_some_iff.mp h
    exact .host hu
  | urlPort =>
    obtain ⟨p, hp, rfl⟩ := Option.map_eq_some_iff.mp h
    obtain ⟨u, hu, hport⟩ := Option.bind_eq_some_iff.mp hp
    unfold Url.effectivePort at hport
    split at hport
    · rename_i q hq
      cases hport
      exact .port hu hq
    · rename_i hnone
      exact .knownPort hu hnone (Url.defaultPort_eq_some_iff.mp hport)
  | urlPath =>
    obtain ⟨u, hu, rfl⟩ := Option.map_eq_some_iff.mp h
    exact .path hu

/-- A value has a subject exactly when it parses, and then only one. -/
lemma parse?_eq_some_iff :
    subject.parse? readUrl value = some s ↔ IsSubject readUrl value subject s := by
  refine ⟨isSubject_of_parse?, fun h => ?_⟩
  cases h with
  | whole => rfl
  | quad hquad =>
    have haddress : Ipv4.address? value = some _ := Ipv4.addressOfChars?_eq_some_iff.mpr hquad
    rw [parse?, haddress]
    rfl
  | lower => rfl
  | upper => rw [parse?, normalizeMac_eq]
  | domain hvalue hlast =>
    rw [parse?, afterAt?_eq_some_iff.mpr ⟨⟨_, hvalue⟩, hlast⟩]
    rfl
  | scheme hu =>
    rw [parse?, hu]
    rfl
  | host hu =>
    rw [parse?, hu]
    rfl
  | port hu hp =>
    rw [parse?, hu, Option.bind_some, Url.effectivePort, hp]
    rfl
  | knownPort hu hnone hp =>
    rw [parse?, hu, Option.bind_some, Url.effectivePort, hnone]
    dsimp only
    rw [Url.defaultPort_eq_some_iff.mpr hp]
    rfl
  | path hu =>
    rw [parse?, hu]
    rfl

lemma not_isSubject_of_parse? (h : subject.parse? readUrl value = none) :
    ∀ s, ¬ IsSubject readUrl value subject s := by
  intro s hs
  rw [parse?_eq_some_iff.mpr hs] at h
  cases h

end Subject

/-! ### Entries that match -/

/-- A text without the characters `c` at its end, of which it may have any number. -/
def IsStripped (c : Char) (text base : String) : Prop :=
  ∃ dropped, text.toList = base.toList ++ dropped ∧ (∀ x ∈ dropped, x = c) ∧
    base.toList.getLast? ≠ some c

def MatchesName (entry : String) (s : Operand) : Prop := s = .text (Text.lower (Text.trim entry))

def MatchesScheme (entry : String) (s : Operand) : Prop :=
  ∃ base, IsStripped ':' (Text.trim entry) base ∧ s = .text (Text.lower base)

def MatchesMac (entry : String) (s : Operand) : Prop :=
  s = .text ((Text.upper (Text.trim entry)).map fun c => if c = '-' then ':' else c)

def MatchesPort (port : UInt16) (s : Operand) : Prop := s = .number port.toNat

/-- The path of the entry, slashes at its end apart, or anything below it. -/
def MatchesPath (entry : String) (s : Operand) : Prop :=
  ∃ base path, IsStripped '/' (Text.trim entry) base ∧ s = .text path ∧
    (path = base ∨ ∃ below, path = base ++ "/" ++ below)

/-- Entries that have no range match nothing. -/
def MatchesRange (entry : String) (s : Operand) : Prop :=
  ∃ x r, s = .number x ∧ Ipv4.range? entry = some r ∧ r.first ≤ x ∧ x ≤ r.last

/-- A part of a value that is filtered, each entry as the subjects that it matches. -/
structure FilteredPart where
  subject : Subject
  mode : FilterMode
  entries : List (Operand → Prop)

namespace FilteredPart

def ofFilter {α : Type} (subject : Subject) (Matches : α → Operand → Prop) (f : Filter α) :
    FilteredPart :=
  ⟨subject, f.mode, f.entries.map Matches⟩

/-- The part is constrained: it is allowed or denied something. -/
def isActive (p : FilteredPart) : Bool := p.mode ≠ .none && !p.entries.isEmpty

/-- The parts of a leaf that have a filter. -/
def ofLeaf : Leaf → List FilteredPart
  | .email domain => [ofFilter .emailDomain MatchesName domain]
  | .url rules =>
    (rules.protocol.map (ofFilter .urlProtocol MatchesScheme)).toList ++
      (rules.domain.map (ofFilter .urlHostname MatchesName)).toList ++
      (rules.port.map (ofFilter .urlPort MatchesPort)).toList ++
      (rules.path.map (ofFilter .urlPath MatchesPath)).toList
  | .address .ipv4 range => [ofFilter .ipv4Number MatchesRange range]
  | .address .ipv6 range => [ofFilter .ipv6 MatchesName range]
  | .address .mac range => [ofFilter .mac MatchesMac range]
  | _ => []

/-- A refinement checks membership in the entries of a part. -/
structure Decides (readUrl : String → Option Url) (p : FilteredPart) (r : Refinement) :
    Prop where
  unparsed : ∀ value, (∀ s, ¬ IsSubject readUrl value p.subject s) →
    r.check readUrl value = true
  allow : ∀ value s, IsSubject readUrl value p.subject s → p.mode = .allow →
    (r.check readUrl value = true ↔ ∃ e ∈ p.entries, e s)
  deny : ∀ value s, IsSubject readUrl value p.subject s → p.mode = .deny →
    (r.check readUrl value = true ↔ ∀ e ∈ p.entries, ¬ e s)

end FilteredPart

/-! ### Predicates of filters -/

lemma Predicate.eval_memberOf (xs : List Operand) (s : Operand) :
    (memberOf xs).eval s = true ↔ s ∈ xs := by
  unfold memberOf
  split
  · rw [eval, beq_iff_eq, List.mem_singleton]
  · rw [eval, List.contains_iff_mem]

namespace Refinement

lemma eval_membership {normalize : String → String} {Matches : String → Operand → Prop}
    (h : ∀ entry s, Matches entry s ↔ s = .text (normalize entry)) (entries : List String)
    (s : Operand) :
    (membership normalize entries).eval s = true ↔ ∃ e ∈ entries, Matches e s := by
  rw [membership, Predicate.eval_memberOf, List.mem_map]
  refine exists_congr fun e => and_congr_right fun _ => ?_
  rw [h, eq_comm]

lemma stripped_iff (c : Char) (text base : String) :
    IsStripped c text base ↔ base = String.ofList (Text.dropEndWhile (· == c) text.toList) := by
  rw [← String.toList_inj, String.toList_ofList, eq_comm, Text.dropEndWhile_eq_iff]
  unfold IsStripped
  simp only [beq_iff_eq, Option.mem_def]
  refine exists_congr fun dropped => and_congr_right fun _ => and_congr_right fun _ => ?_
  constructor
  · intro hne x hx
    rw [beq_eq_false_iff_ne]
    rintro rfl
    exact hne hx
  · intro hall hlast
    have hself := hall c hlast
    rw [beq_self_eq_true] at hself
    cases hself

lemma matchesScheme_iff (entry : String) (s : Operand) :
    MatchesScheme entry s ↔ s = .text (normalizeScheme entry) := by
  unfold MatchesScheme normalizeScheme
  simp only [stripped_iff, exists_eq_left, Text.trim, String.toList_ofList]

lemma matchesMac_iff (entry : String) (s : Operand) :
    MatchesMac entry s ↔ s = .text (normalizeMac (Text.trim entry)) := by
  rw [MatchesMac, normalizeMac_eq]

lemma isBelow_iff (base path : String) :
    Predicate.isBelow base.toList path.toList = true ↔
      path = base ∨ ∃ below, path = base ++ "/" ++ below := by
  have hslash : "/".toList = ['/'] := rfl
  rw [Predicate.isBelow, Bool.or_eq_true, beq_iff_eq, String.toList_inj, List.isPrefixOf_iff_prefix]
  refine or_congr_right ?_
  constructor
  · rintro ⟨below, hbelow⟩
    refine ⟨String.ofList below, ?_⟩
    rw [← String.toList_inj, ← hbelow, String.toList_append, String.toList_append, hslash,
      String.toList_ofList]
  · rintro ⟨below, rfl⟩
    refine ⟨below.toList, ?_⟩
    rw [String.toList_append, String.toList_append, hslash]

lemma matchesPath_iff (entry : String) (s : Operand) :
    MatchesPath entry s ↔ (Predicate.pathPrefix (Text.trim entry)).eval s = true := by
  cases s with
  | number n => simp [MatchesPath, Predicate.eval]
  | text path =>
    have hbase : Predicate.pathBase (Text.trim entry) =
        (String.ofList (Text.dropEndWhile (· == '/') (Text.trim entry).toList)).toList := by
      rw [Predicate.pathBase, String.toList_ofList]
    rw [Predicate.eval, hbase, isBelow_iff]
    simp [MatchesPath, stripped_iff]

lemma eval_paths (paths : List String) (s : Operand) :
    (Predicate.any (paths.map fun p => .pathPrefix (Text.trim p))).eval s = true ↔
      ∃ e ∈ paths, MatchesPath e s := by
  rw [Predicate.eval, Predicate.evalAny_eq_any, List.any_map, List.any_eq_true]
  refine exists_congr fun e => and_congr_right fun _ => ?_
  rw [matchesPath_iff, Function.comp_apply]

lemma eval_ports (ports : List UInt16) (s : Operand) :
    (Predicate.memberOf (ports.map fun p => .number p.toNat)).eval s = true ↔
      ∃ e ∈ ports, MatchesPort e s := by
  rw [Predicate.eval_memberOf, List.mem_map]
  refine exists_congr fun e => and_congr_right fun _ => ?_
  rw [MatchesPort, eq_comm]

lemma eval_ranges (entries : List String) (s : Operand) :
    (inRanges entries).eval s = true ↔ ∃ e ∈ entries, MatchesRange e s := by
  cases s with
  | number x =>
    rw [eval_inRanges]
    simp [MatchesRange]
  | text t =>
    rw [inRanges, Predicate.eval, Predicate.evalAny_eq_any, List.any_map, List.any_eq_true]
    constructor
    · rintro ⟨r, -, hr⟩
      rw [Function.comp_apply, Predicate.eval] at hr
      cases hr
    · rintro ⟨e, -, x, r, heq, -⟩
      cases heq

/-! ### Refinements of filters -/

section OfFilter

variable {readUrl : String → Option Url}

lemma check_of_isSubject {r : Refinement} {value : String} {s : Operand}
    (h : IsSubject readUrl value r.subject s) : r.check readUrl value = r.predicate.eval s := by
  rw [check, Subject.parse?_eq_some_iff.mpr h]

lemma check_of_no_subject {r : Refinement} {value : String}
    (h : ∀ s, ¬ IsSubject readUrl value r.subject s) : r.check readUrl value = true := by
  unfold check
  split
  · rename_i s hs
    exact absurd (Subject.parse?_eq_some_iff.mp hs) (h s)
  · rfl

variable {α : Type} {subject : Subject} {message : String} {test : List α → Predicate}
  {Matches : α → Operand → Prop}

/-- The predicate is the test itself to allow and its negation to deny. -/
lemma decides_of_forMode
    (htest : ∀ entries s, (test entries).eval s = true ↔ ∃ e ∈ entries, Matches e s)
    {f : Filter α} {p : Predicate} (hp : (test f.entries).forMode f.mode = some p) :
    (FilteredPart.ofFilter subject Matches f).Decides readUrl ⟨subject, p, message⟩ := by
  constructor
  · intro value hnone
    exact check_of_no_subject hnone
  · intro value s hvalue hmode
    have hallow : f.mode = .allow := hmode
    rw [hallow] at hp
    cases hp
    rw [check_of_isSubject hvalue, htest, FilteredPart.ofFilter]
    simp
  · intro value s hvalue hmode
    have hdeny : f.mode = .deny := hmode
    rw [hdeny] at hp
    cases hp
    have hmember := htest f.entries s
    rw [check_of_isSubject hvalue, Predicate.eval, Bool.not_eq_true', ← Bool.not_eq_true, hmember,
      FilteredPart.ofFilter]
    simp

lemma isActive_ofFilter (f : Filter α) :
    (FilteredPart.ofFilter subject Matches f).isActive = f.isActive := by
  cases f with
  | mk mode entries => cases mode <;> simp [FilteredPart.isActive, FilteredPart.ofFilter,
      Filter.isActive, FilterMode.isActive]

/-- An active filter gives a refinement that decides membership. -/
lemma exists_decides_of_isActive
    (htest : ∀ entries s, (test entries).eval s = true ↔ ∃ e ∈ entries, Matches e s)
    {f : Filter α} (hf : f.isActive = true) :
    ∃ r, forMode? subject message test f = some r ∧
      (FilteredPart.ofFilter subject Matches f).Decides readUrl r := by
  have hmode : f.mode ≠ .none := by
    intro hnone
    simp [Filter.isActive, FilterMode.isActive, hnone] at hf
  obtain ⟨p, hp⟩ : ∃ p, (test f.entries).forMode f.mode = some p := by
    cases hm : f.mode with
    | allow => exact ⟨_, rfl⟩
    | deny => exact ⟨_, rfl⟩
    | none => exact absurd hm hmode
  refine ⟨⟨subject, p, message⟩, ?_, decides_of_forMode htest hp⟩
  rw [forMode?, hp, Option.map_some]

lemma ofFilter?_of_not_isActive {f : Filter α} (hf : f.isActive = false) :
    ofFilter? subject message test f = none := by
  unfold ofFilter?
  split
  · rfl
  · rename_i hentries
    have hmode : f.mode = .none := by
      cases hm : f.mode <;> simp [Filter.isActive, FilterMode.isActive, hm, hentries] at hf ⊢
    rw [forMode?, hmode, Predicate.forMode, Option.map_none]

lemma ofFilter?_of_isActive {f : Filter α} (hf : f.isActive = true) :
    ofFilter? subject message test f = forMode? subject message test f := by
  unfold ofFilter?
  rw [if_neg]
  intro hentries
  simp [Filter.isActive, hentries] at hf

/-- An active filter gives a refinement that decides membership, and any other filter gives none. -/
lemma decides_ofFilter?
    (htest : ∀ entries s, (test entries).eval s = true ↔ ∃ e ∈ entries, Matches e s)
    (f : Filter α) :
    List.Forall₂ (FilteredPart.Decides readUrl)
      ([FilteredPart.ofFilter subject Matches f].filter FilteredPart.isActive)
      (ofFilter? subject message test f).toList := by
  rw [List.filter_singleton, isActive_ofFilter]
  cases hf : f.isActive with
  | false =>
    rw [ofFilter?_of_not_isActive hf]
    exact .nil
  | true =>
    obtain ⟨r, hr, hdecides⟩ := exists_decides_of_isActive htest hf
    rw [ofFilter?_of_isActive hf, hr]
    exact .cons hdecides .nil

lemma decides_ofPart?
    (htest : ∀ entries s, (test entries).eval s = true ↔ ∃ e ∈ entries, Matches e s)
    (f : Option (Filter α)) :
    List.Forall₂ (FilteredPart.Decides readUrl)
      ((f.map (FilteredPart.ofFilter subject Matches)).toList.filter FilteredPart.isActive)
      (ofPart? subject message test f).toList := by
  cases f with
  | none => exact .nil
  | some f =>
    rw [Option.map_some, Option.toList_some, List.filter_singleton, isActive_ofFilter, ofPart?]
    cases hf : f.isActive with
    | false =>
      rw [Option.filter_some, hf]
      exact .nil
    | true =>
      obtain ⟨r, hr, hdecides⟩ := exists_decides_of_isActive htest hf
      rw [Option.filter_some, hf, if_pos rfl, Option.bind_some, hr]
      exact .cons hdecides .nil

end OfFilter

/-- Filters decide membership. For every leaf there is one refinement for each part that has a mode
and an entry, in the order of the parts. A value without a subject passes; otherwise an allow list
passes the subjects that match an entry, and a deny list those that match none. This holds however
URLs are read. -/
theorem ofLeaf_decides (readUrl : String → Option Url) (l : Leaf) :
    List.Forall₂ (FilteredPart.Decides readUrl)
      ((FilteredPart.ofLeaf l).filter FilteredPart.isActive) (ofLeaf l) := by
  have hname : ∀ entries s, (membership normalizeName entries).eval s = true ↔
      ∃ e ∈ entries, MatchesName e s := eval_membership fun _ _ => Iff.rfl
  cases l with
  | email domain => exact decides_ofFilter? hname domain
  | url rules =>
    have hscheme := eval_membership matchesScheme_iff
    rw [FilteredPart.ofLeaf, List.filter_append, List.filter_append, List.filter_append]
    exact List.rel_append (List.rel_append (List.rel_append
      (decides_ofPart? hscheme rules.protocol) (decides_ofPart? hname rules.domain))
      (decides_ofPart? eval_ports rules.port)) (decides_ofPart? eval_paths rules.path)
  | address kind range =>
    cases kind with
    | ipv4 => exact decides_ofFilter? eval_ranges range
    | ipv6 => exact decides_ofFilter? hname range
    | mac => exact decides_ofFilter? (eval_membership matchesMac_iff) range
  | _ => exact .nil

lemma eq_singleton_of_decides {readUrl : String → Option Url} {p : FilteredPart}
    {rs : List Refinement} (h : List.Forall₂ (FilteredPart.Decides readUrl) [p] rs) :
    ∃ r, rs = [r] ∧ p.Decides readUrl r := by
  obtain ⟨r, others, hr, hothers, rfl⟩ := List.forall₂_cons_left_iff.mp h
  obtain rfl := List.forall₂_nil_left_iff.mp hothers
  exact ⟨r, rfl, hr⟩

/-- A domain after two signs, addresses spelled otherwise than their entries, and a URL with two
filters that constrain something beside two that do not. -/
theorem ofLeaf_decides_of_spellings :
    (∃ r, ofLeaf (.email ⟨.allow, ["a.org", " B.ORG "]⟩) = [r] ∧
      r.check Url.parse? "x@a.org@b.Org" = true ∧ r.check Url.parse? "x@a.org@c" = false ∧
      r.check Url.parse? "c" = true) ∧
    (∃ r, ofLeaf (.address .ipv6 ⟨.deny, [" FE80::1"]⟩) = [r] ∧
      r.check Url.parse? "Fe80::1" = false) ∧
    (∃ r, ofLeaf (.address .mac ⟨.allow, ["0a-1b-2c-3d-4e-5f "]⟩) = [r] ∧
      r.check Url.parse? "0A:1b:2c-3d-4e:5F" = true) ∧
    ∃ r q, ofLeaf (.url
        { protocol := some ⟨.deny, [" HTTP:: "]⟩, domain := some ⟨.none, ["a"]⟩
          port := some ⟨.allow, []⟩, path := some ⟨.allow, ["/x", " /api//"]⟩ }) = [r, q] ∧
      r.check Url.parse? "http://a/" = false ∧ r.check Url.parse? "no address" = true ∧
      q.check Url.parse? "http://a/api/b" = true := by
  refine ⟨?_, ?_, ?_, ?_⟩
  · obtain ⟨r, hr, hdecides⟩ := eq_singleton_of_decides
      (ofLeaf_decides Url.parse? (.email ⟨.allow, ["a.org", " B.ORG "]⟩))
    have hb : IsSubject Url.parse? "x@a.org@b.Org" .emailDomain (.text (Text.lower "b.Org")) :=
      .domain (by decide +kernel : "x@a.org@b.Org" = "x@a.org" ++ "@" ++ "b.Org")
        (by decide +kernel)
    have hc : IsSubject Url.parse? "x@a.org@c" .emailDomain (.text (Text.lower "c")) :=
      .domain (by decide +kernel : "x@a.org@c" = "x@a.org" ++ "@" ++ "c") (by decide +kernel)
    refine ⟨r, hr, ?_, ?_, ?_⟩
    · exact (hdecides.allow _ _ hb rfl).mpr
        ⟨_, List.mem_cons_of_mem _ List.mem_cons_self, by unfold MatchesName; decide +kernel⟩
    · rw [← Bool.not_eq_true, hdecides.allow _ _ hc rfl]
      rintro ⟨e, he, hmatch⟩
      rcases List.mem_pair.mp he with rfl | rfl
      · exact absurd hmatch (by unfold MatchesName; decide +kernel)
      · exact absurd hmatch (by unfold MatchesName; decide +kernel)
    · exact hdecides.unparsed "c" (Subject.not_isSubject_of_parse? (by decide +kernel))
  · obtain ⟨r, hr, hdecides⟩ := eq_singleton_of_decides
      (ofLeaf_decides Url.parse? (.address .ipv6 ⟨.deny, [" FE80::1"]⟩))
    refine ⟨r, hr, ?_⟩
    rw [← Bool.not_eq_true, hdecides.deny _ _ .lower rfl]
    exact fun hall => hall _ List.mem_cons_self (by unfold MatchesName; decide +kernel)
  · obtain ⟨r, hr, hdecides⟩ := eq_singleton_of_decides
      (ofLeaf_decides Url.parse? (.address .mac ⟨.allow, ["0a-1b-2c-3d-4e-5f "]⟩))
    refine ⟨r, hr, (hdecides.allow _ _ .upper rfl).mpr ⟨_, List.mem_cons_self, ?_⟩⟩
    rw [MatchesMac, ← normalizeMac_eq, ← normalizeMac_eq]
    decide +kernel
  · have hdecides := ofLeaf_decides Url.parse? (.url
      { protocol := some ⟨.deny, [" HTTP:: "]⟩, domain := some ⟨.none, ["a"]⟩
        port := some ⟨.allow, []⟩, path := some ⟨.allow, ["/x", " /api//"]⟩ })
    obtain ⟨r, others, hr, hothers, hl⟩ := List.forall₂_cons_left_iff.mp hdecides
    obtain ⟨q, rfl, hq⟩ := eq_singleton_of_decides hothers
    have hscheme : MatchesScheme " HTTP:: " (.text "http") :=
      ⟨"HTTP", ⟨.replicate 2 ':', by decide +kernel, fun _ => List.eq_of_mem_replicate,
        by decide +kernel⟩, by decide +kernel⟩
    have hpath : MatchesPath " /api//" (.text "/api/b") :=
      ⟨"/api", "/api/b", ⟨.replicate 2 '/', by decide +kernel, fun _ => List.eq_of_mem_replicate,
        by decide +kernel⟩, rfl, Or.inr ⟨"b", by decide +kernel⟩⟩
    have hurl : Url.parse? "http://a/" = some ⟨"http", "a", none, "/"⟩ := by decide +kernel
    have hurl' : Url.parse? "http://a/api/b" = some ⟨"http", "a", none, "/api/b"⟩ := by
      decide +kernel
    refine ⟨r, q, hl, ?_, ?_, ?_⟩
    · rw [← Bool.not_eq_true, hr.deny _ _ (.scheme hurl) rfl]
      exact fun hall => hall _ List.mem_cons_self hscheme
    · exact hr.unparsed "no address" (Subject.not_isSubject_of_parse? (by decide +kernel))
    · exact (hq.allow _ _ (.path hurl') rfl).mpr
        ⟨_, List.mem_cons_of_mem _ List.mem_cons_self, hpath⟩

end Refinement

end SchemaForge
