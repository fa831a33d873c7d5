import Mathlib.Data.List.Basic
import Mathlib.Tactic.Common

/-!
# SNI dispatch

`resolver.rs` of the PKCS#11 adapter: a requested name is looked up exactly, then against the
wildcard keys in iteration order, then answered by the default.  A name has at most one wildcard
key, the star in place of its first label, so the scan over all keys is a single lookup.
-/

namespace OxiTls

open Std (TreeMap)

/-- `str::strip_prefix`. -/
def stripPrefix (text start : String) : Option String :=
  (text.toList.dropPrefix? start.toList).map String.ofList

/-- `str::strip_suffix`. -/
def stripSuffix (text ending : String) : Option String :=
  (text.toList.dropSuffix? ending.toList).map String.ofList

theorem stripPrefix_eq_some_iff {text start rest : String} :
    stripPrefix text start = some rest ↔ text = start ++ rest := by
  simp only [stripPrefix, Option.map_eq_some_iff, List.dropPrefix?_eq_some_iff, beq_iff_eq,
    exists_eq_right]
  constructor
  · rintro ⟨chars, split, rfl⟩
    exact String.toList_injective (by simpa using split)
  · rintro rfl
    exact ⟨rest.toList, by simp, by simp⟩

theorem stripSuffix_eq_some_iff {text ending rest : String} :
    stripSuffix text ending = some rest ↔ text = rest ++ ending := by
  simp only [stripSuffix, Option.map_eq_some_iff, List.dropSuffix?_eq_some_iff, beq_iff_eq,
    exists_eq_right]
  constructor
  · rintro ⟨chars, split, rfl⟩
    exact String.toList_injective (by simpa using split)
  · rintro rfl
    exact ⟨rest.toList, by simp, by simp⟩

/-- The test of the scan for one key.  The slice before the last byte is taken only of a text that
ends with a dot, which is one byte. -/
def wildcardMatches (key requested : String) : Bool :=
  match stripPrefix key "*." with
  | none => false
  | some suffix =>
      match stripSuffix requested suffix with
      | none => false
      | some labelDot =>
          decide (1 < labelDot.utf8ByteSize) && labelDot.toList.getLast? == some '.' &&
            !labelDot.toList.dropLast.contains '.'

variable {V : Type*}

/-- The scan over the entries of the map: the value of the first key that passes the test. -/
def scanWildcards (entries : List (String × V)) (requested : String) : Option V :=
  entries.findSome? fun entry => if wildcardMatches entry.1 requested then some entry.2 else none

/-- `match_sni`. -/
def matchSni (map : TreeMap String V) (requested : String) (strict : Bool) (default : Option V) :
    Option V :=
  match map[requested]? with
  | some value => some value
  | none =>
      match scanWildcards map.toList requested with
      | some value => some value
      | none => if strict then none else default

/-- `Pkcs11ServerCertResolver`, over the type of its certified keys. -/
structure Pkcs11ServerCertResolver (V : Type*) where
  sniMap : TreeMap String V
  default : Option V
  strictSni : Bool

namespace Pkcs11ServerCertResolver

/-- `Pkcs11ServerCertResolver::new`. -/
def new (certifiedKey : V) : Pkcs11ServerCertResolver V := ⟨∅, some certifiedKey, false⟩

/-- `Pkcs11ServerCertResolver::with_sni_map`. -/
def withSniMap (map : TreeMap String V) : Pkcs11ServerCertResolver V := ⟨map, none, false⟩

/-- `Pkcs11ServerCertResolver::with_strict_sni`. -/
def withStrictSni (resolver : Pkcs11ServerCertResolver V) (strict : Bool) :
    Pkcs11ServerCertResolver V :=
  { resolver with strictSni := strict }

/-- `Pkcs11ServerCertResolver::lookup`. -/
def lookup (resolver : Pkcs11ServerCertResolver V) : Option String → Option V
  | some name => matchSni resolver.sniMap name resolver.strictSni resolver.default
  | none => if resolver.strictSni then none else resolver.default

end Pkcs11ServerCertResolver

/-! ## The wildcard key of a name -/

/-- The name is a label, not empty and without a dot, followed by a dot and the tail. -/
structure SplitsAt (requested label tail : String) : Prop where
  split : requested = label ++ "." ++ tail
  nonempty : label ≠ ""
  dotFree : '.' ∉ label.toList

/-- The label is what stands before the first dot of the name. -/
theorem SplitsAt.takeWhile_eq {requested label tail : String}
    (splits : SplitsAt requested label tail) :
    requested.toList.takeWhile (· != '.') = label.toList := by
  have plain : ∀ character ∈ label.toList, (character != '.') = true := by
    intro character member
    have different : character ≠ '.' := by
      rintro rfl
      exact splits.dotFree member
    simpa using different
  rw [splits.split]
  simp [List.takeWhile_append_of_pos plain]

theorem SplitsAt.unique {requested label tail label' tail' : String}
    (splits : SplitsAt requested label tail) (splits' : SplitsAt requested label' tail') :
    label = label' ∧ tail = tail' := by
  obtain rfl : label = label' :=
    String.toList_injective (splits.takeWhile_eq.symm.trans splits'.takeWhile_eq)
  have same := congrArg String.toList (splits.split.symm.trans splits'.split)
  exact ⟨rfl, String.toList_injective (by simpa using same)⟩

/-- The three conditions on the text before the suffix say that it is a label and a dot. -/
theorem labelDot_iff {labelDot : String} :
    (decide (1 < labelDot.utf8ByteSize) && labelDot.toList.getLast? == some '.' &&
        !labelDot.toList.dropLast.contains '.') = true ↔
      ∃ label, labelDot = label ++ "." ∧ label ≠ "" ∧ '.' ∉ label.toList := by
  simp only [Bool.and_eq_true, decide_eq_true_eq, beq_iff_eq, Bool.not_eq_true',
    List.contains_eq_mem, decide_eq_false_iff_not]
  constructor
  · rintro ⟨⟨long, dotted⟩, dotFree⟩
    have whole : labelDot = String.ofList labelDot.toList.dropLast ++ "." := by
      apply String.toList_injective
      simpa using (List.dropLast_append_getLast? '.' dotted).symm
    refine ⟨String.ofList labelDot.toList.dropLast, whole, ?_, by simpa using dotFree⟩
    intro empty
    rw [whole, empty] at long
    exact absurd long (by decide)
  · rintro ⟨label, rfl, nonempty, dotFree⟩
    have positive : label.utf8ByteSize ≠ 0 := mt String.utf8ByteSize_eq_zero_iff.mp nonempty
    have one : (".").utf8ByteSize = 1 := rfl
    refine ⟨⟨?_, by simp⟩, by simpa using dotFree⟩
    rw [String.utf8ByteSize_append, one]
    omega

/-- The keys that pass the test for a name are the star followed by its tail. -/
theorem wildcardMatches_iff {key requested : String} :
    wildcardMatches key requested = true ↔
      ∃ label tail, SplitsAt requested label tail ∧ key = "*." ++ tail := by
  constructor
  · intro passes
    unfold wildcardMatches at passes
    split at passes
    · contradiction
    · next suffix starred =>
        split at passes
        · contradiction
        · next labelDot ended =>
            obtain ⟨label, rfl, nonempty, dotFree⟩ := labelDot_iff.mp passes
            exact ⟨label, suffix, ⟨stripSuffix_eq_some_iff.mp ended, nonempty, dotFree⟩,
              stripPrefix_eq_some_iff.mp starred⟩
  · rintro ⟨label, tail, ⟨rfl, nonempty, dotFree⟩, rfl⟩
    have starred : stripPrefix ("*." ++ tail) "*." = some tail := stripPrefix_eq_some_iff.mpr rfl
    have ended : stripSuffix (label ++ "." ++ tail) tail = some (label ++ ".") :=
      stripSuffix_eq_some_iff.mpr rfl
    simp only [wildcardMatches, starred, ended]
    exact labelDot_iff.mpr ⟨label, rfl, nonempty, dotFree⟩

theorem wildcardMatches_unique {key key' requested : String}
    (passes : wildcardMatches key requested = true)
    (passes' : wildcardMatches key' requested = true) : key = key' := by
  obtain ⟨label, tail, splits, rfl⟩ := wildcardMatches_iff.mp passes
  obtain ⟨label', tail', splits', rfl⟩ := wildcardMatches_iff.mp passes'
  rw [(splits.unique splits').2]

/-- The names a wildcard key covers. -/
theorem wildcardMatches_star_iff {tail requested : String} :
    wildcardMatches ("*." ++ tail) requested = true ↔ ∃ label, SplitsAt requested label tail := by
  rw [wildcardMatches_iff]
  constructor
  · rintro ⟨label, tail', splits, keys⟩
    obtain rfl : tail = tail' := by
      have characters := congrArg String.toList keys
      exact String.toList_injective (by simpa using characters)
    exact ⟨label, splits⟩
  · rintro ⟨label, splits⟩
    exact ⟨label, tail, splits, rfl⟩

/-! ## The scan -/

section Scan

variable {map : TreeMap String V} {requested : String}

/-- Over the entries of a map in any order, the scan is one lookup. -/
theorem scanWildcards_eq_some_iff {entries : List (String × V)}
    (listed : ∀ key value, (key, value) ∈ entries ↔ map[key]? = some value) {value : V} :
    scanWildcards entries requested = some value ↔
      ∃ label tail, SplitsAt requested label tail ∧ map["*." ++ tail]? = some value := by
  have found {value : V} (scanned : scanWildcards entries requested = some value) :
      ∃ label tail, SplitsAt requested label tail ∧ map["*." ++ tail]? = some value := by
    obtain ⟨⟨key, value'⟩, member, passes⟩ := List.exists_of_findSome?_eq_some scanned
    simp only [Option.ite_none_right_eq_some, Option.some.injEq] at passes
    obtain ⟨passes, rfl⟩ := passes
    obtain ⟨label, tail, splits, rfl⟩ := wildcardMatches_iff.mp passes
    exact ⟨label, tail, splits, (listed _ _).mp member⟩
  refine ⟨found, ?_⟩
  rintro ⟨label, tail, splits, stored⟩
  have passes : wildcardMatches ("*." ++ tail) requested = true :=
    wildcardMatches_iff.mpr ⟨label, tail, splits, rfl⟩
  have answered : (scanWildcards entries requested).isSome = true :=
    List.findSome?_isSome_iff.mpr ⟨_, (listed _ _).mpr stored, by simp [passes]⟩
  obtain ⟨value', scanned⟩ := Option.isSome_iff_exists.mp answered
  obtain ⟨label', tail', splits', stored'⟩ := found scanned
  obtain ⟨rfl, rfl⟩ := splits.unique splits'
  rw [scanned, ← stored', stored]

theorem mem_toList_iff {key : String} {value : V} :
    (key, value) ∈ map.toList ↔ map[key]? = some value :=
  TreeMap.mem_toList_iff_getElem?_eq_some

/-- Without an entry under its wildcard key the scan answers nothing. -/
theorem scanWildcards_eq_none
    (absent : ∀ label tail, SplitsAt requested label tail → map["*." ++ tail]? = none) :
    scanWildcards map.toList requested = none := by
  cases scanned : scanWildcards map.toList requested with
  | none => rfl
  | some value =>
      obtain ⟨label, tail, splits, stored⟩ :=
        (scanWildcards_eq_some_iff fun _ _ => mem_toList_iff).mp scanned
      rw [absent label tail splits] at stored
      contradiction

/-- The dispatch reads the entries of the name and of its wildcard key and no other. -/
theorem matchSni_congr {other : TreeMap String V} {strict : Bool} {default : Option V}
    (exact : map[requested]? = other[requested]?)
    (wild : ∀ label tail, SplitsAt requested label tail →
      map["*." ++ tail]? = other["*." ++ tail]?) :
    matchSni map requested strict default = matchSni other requested strict default := by
  have scans : scanWildcards map.toList requested = scanWildcards other.toList requested := by
    ext value
    rw [scanWildcards_eq_some_iff fun _ _ => mem_toList_iff,
      scanWildcards_eq_some_iff fun _ _ => mem_toList_iff]
    constructor
    · rintro ⟨label, tail, splits, stored⟩
      exact ⟨label, tail, splits, wild label tail splits ▸ stored⟩
    · rintro ⟨label, tail, splits, stored⟩
      exact ⟨label, tail, splits, (wild label tail splits).symm ▸ stored⟩
  simp only [matchSni, exact, scans]

/-- The entry under the name itself or, without one, under its wildcard key. -/
inductive Serves (map : TreeMap String V) (requested : String) (value : V) : Prop
  | exact (stored : map[requested]? = some value)
  | wildcard {label tail : String} (missing : map[requested]? = none)
      (splits : SplitsAt requested label tail) (stored : map["*." ++ tail]? = some value)

theorem Serves.matchSni_eq {value : V} (serves : Serves map requested value) (strict : Bool)
    (default : Option V) : matchSni map requested strict default = some value := by
  cases serves with
  | exact stored => simp only [matchSni, stored]
  | @wildcard label tail missing splits stored =>
      have scanned : scanWildcards map.toList requested = some value :=
        (scanWildcards_eq_some_iff fun _ _ => mem_toList_iff).mpr ⟨label, tail, splits, stored⟩
      simp only [matchSni, missing, scanned]

/-- A name without an entry of its own is left to the default. -/
theorem matchSni_of_not_serves (unserved : ∀ value, ¬ Serves map requested value) (strict : Bool)
    (default : Option V) :
    matchSni map requested strict default = if strict then none else default := by
  have missing : map[requested]? = none :=
    Option.eq_none_iff_forall_ne_some.mpr fun value stored => unserved value (.exact stored)
  have unscanned : scanWildcards map.toList requested = none := by
    refine scanWildcards_eq_none fun label tail splits => ?_
    exact Option.eq_none_iff_forall_ne_some.mpr fun value stored =>
      unserved value (.wildcard missing splits stored)
  simp only [matchSni, missing, unscanned]

end Scan

/-- The dispatch is an exact lookup, else a lookup of the wildcard key, else the default unless
strict.  At most one key passes the wildcard test, the order of the entries does not matter, other
keys may come and go, and a wildcard covers neither its apex nor a name with a further label. -/
theorem matchSni_spec (map : TreeMap String V) (requested : String) (strict : Bool)
    (default : Option V) :
    (∀ value, map[requested]? = some value →
        matchSni map requested strict default = some value) ∧
      (map[requested]? = none → ∀ label tail, SplitsAt requested label tail →
        ∀ value, map["*." ++ tail]? = some value →
          matchSni map requested strict default = some value) ∧
      (map[requested]? = none →
        (∀ label tail, SplitsAt requested label tail → map["*." ++ tail]? = none) →
          matchSni map requested strict default = if strict then none else default) ∧
      (∀ key key', wildcardMatches key requested = true →
        wildcardMatches key' requested = true → key = key') ∧
      (∀ entries : List (String × V), entries.Perm map.toList →
        scanWildcards entries requested = scanWildcards map.toList requested) ∧
      (∀ key, key ≠ requested →
        (∀ label tail, SplitsAt requested label tail → key ≠ "*." ++ tail) →
          (∀ value, matchSni (map.insert key value) requested strict default =
            matchSni map requested strict default) ∧
          matchSni (map.erase key) requested strict default =
            matchSni map requested strict default) ∧
      ∀ tail, wildcardMatches ("*." ++ tail) tail = false ∧
        ∀ first second, wildcardMatches ("*." ++ tail) (first ++ "." ++ second ++ "." ++ tail) =
          false := by
  refine ⟨?_, ?_, ?_, fun _ _ => wildcardMatches_unique, ?_, ?_, ?_⟩
  · intro value stored
    exact Serves.matchSni_eq (.exact stored) strict default
  · intro missing label tail splits value stored
    exact Serves.matchSni_eq (.wildcard missing splits stored) strict default
  · intro missing absent
    refine matchSni_of_not_serves (fun value serves => ?_) strict default
    cases serves with
    | exact stored => simp [missing] at stored
    | wildcard _ splits stored => simp [absent _ _ splits] at stored
  · intro entries permuted
    ext value
    have listed (key : String) (value : V) : (key, value) ∈ entries ↔ map[key]? = some value :=
      permuted.mem_iff.trans mem_toList_iff
    rw [scanWildcards_eq_some_iff listed, scanWildcards_eq_some_iff fun _ _ => mem_toList_iff]
  · intro key other unrelated
    refine ⟨fun value => matchSni_congr ?_ ?_, matchSni_congr ?_ ?_⟩
    · simp [TreeMap.getElem?_insert, other]
    · intro label tail splits
      simp [TreeMap.getElem?_insert, unrelated label tail splits]
    · simp [TreeMap.getElem?_erase, other]
    · intro label tail splits
      simp [TreeMap.getElem?_erase, unrelated label tail splits]
  · intro tail
    refine ⟨?_, fun first second => ?_⟩
    · rw [Bool.eq_false_iff, ne_eq, wildcardMatches_star_iff]
      rintro ⟨label, splits⟩
      have lengths := congrArg (List.length ∘ String.toList) splits.split
      simp at lengths
      omega
    · rw [Bool.eq_false_iff, ne_eq, wildcardMatches_star_iff]
      rintro ⟨label, splits⟩
      have characters := congrArg String.toList splits.split
      simp only [String.toList_append, List.append_cancel_right_eq] at characters
      exact splits.dotFree (by simp [← characters])

/-! ## The fallback entry

`with_sni_map` says that an entry under the empty string is the fallback, but it leaves `default`
unset, and nothing else reads that entry unless the client asks for the empty name.
-/

namespace Pkcs11ServerCertResolver

/-- The client sent a name that the map serves with the value. -/
def Covers (map : TreeMap String V) (sni : Option String) (value : V) : Prop :=
  ∃ name, sni = some name ∧ Serves map name value

/-- The documented dispatch: a covered client gets the entry of its name, any other client the
entry under the empty string, or nothing in strict mode. -/
def FallsBack (map : TreeMap String V) (strict : Bool) (sni : Option String) : Prop :=
  (∀ value, Covers map sni value →
      ((withSniMap map).withStrictSni strict).lookup sni = some value) ∧
    ((∀ value, ¬ Covers map sni value) →
      ((withSniMap map).withStrictSni strict).lookup sni = if strict then none else map[""]?)

theorem lookup_of_covers {map : TreeMap String V} {sni : Option String} {value : V}
    (covers : Covers map sni value) (strict : Bool) :
    ((withSniMap map).withStrictSni strict).lookup sni = some value := by
  obtain ⟨name, rfl, serves⟩ := covers
  exact serves.matchSni_eq strict none

/-- A client that is not covered gets nothing, strict or not. -/
theorem lookup_of_not_covers {map : TreeMap String V} {sni : Option String}
    (uncovered : ∀ value, ¬ Covers map sni value) (strict : Bool) :
    ((withSniMap map).withStrictSni strict).lookup sni = none := by
  cases sni with
  | none => cases strict <;> rfl
  | some name =>
      have unserved (value : V) : ¬ Serves map name value :=
        fun serves => uncovered value ⟨name, rfl, serves⟩
      have answered := matchSni_of_not_serves unserved strict none
      cases strict <;> exact answered

/-- With an entry under the empty string, the dispatch is the documented one exactly in strict mode
and for the clients whose name has an entry of its own. -/
theorem fallsBack_iff {map : TreeMap String V} {fallback : V}
    (stored : map[""]? = some fallback) (strict : Bool) (sni : Option String) :
    FallsBack map strict sni ↔ strict = true ∨ ∃ value, Covers map sni value := by
  constructor
  · rintro ⟨_, others⟩
    by_contra neither
    obtain ⟨permissive, uncovered⟩ := not_or.mp neither
    have uncovered := not_exists.mp uncovered
    have answered := others uncovered
    rw [lookup_of_not_covers uncovered strict, if_neg permissive, stored] at answered
    contradiction
  · intro either
    refine ⟨fun value covers => lookup_of_covers covers strict, fun uncovered => ?_⟩
    rcases either with rfl | ⟨value, covers⟩
    · exact lookup_of_not_covers uncovered true
    · exact absurd covers (uncovered value)

/-- A map with a fallback and one wildcard. -/
def fallbackMap : TreeMap String Nat := (∅ : TreeMap String Nat).insert "" 1 |>.insert "*.example" 2

theorem getElem?_fallbackMap : fallbackMap[""]? = some 1 := by
  simp only [fallbackMap, TreeMap.getElem?_insert]
  simp

theorem fallsBack_iff_wildcard :
    fallbackMap[""]? = some 1 ∧ FallsBack fallbackMap false (some "host.example") := by
  have splits : SplitsAt "host.example" "host" "example" := ⟨by decide, by decide, by decide⟩
  have covers : Covers fallbackMap (some "host.example") 2 := by
    refine ⟨_, rfl, .wildcard ?_ splits ?_⟩
    · simp [fallbackMap]
    · simp [fallbackMap]
  have iff := fallsBack_iff getElem?_fallbackMap false (some "host.example")
  exact ⟨getElem?_fallbackMap, iff.mpr (.inr ⟨2, covers⟩)⟩

/-- A client without a name and one with an unknown name get no certificate. -/
theorem fallbackMap_not_fallsBack :
    fallbackMap[""]? = some 1 ∧ ¬ FallsBack fallbackMap false none ∧
      ¬ FallsBack fallbackMap false (some "other") := by
  have refused {sni : Option String} (uncovered : ∀ value, ¬ Covers fallbackMap sni value) :
      ¬ FallsBack fallbackMap false sni := by
    rintro ⟨_, others⟩
    have answered := others uncovered
    rw [lookup_of_not_covers uncovered, if_neg (by decide),
      getElem?_fallbackMap] at answered
    contradiction
  refine ⟨getElem?_fallbackMap, refused ?_, refused ?_⟩
  · rintro value ⟨name, sent, _⟩
    contradiction
  · rintro value ⟨name, sent, serves⟩
    obtain rfl := Option.some.inj sent
    cases serves with
    | exact stored => simp [fallbackMap] at stored
    | wildcard _ splits _ =>
        have split := congrArg String.toList splits.split
        have dotted : '.' ∈ "other".toList := by simp [split]
        revert dotted
        decide

end Pkcs11ServerCertResolver

end OxiTls
