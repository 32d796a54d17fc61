import Narrowd.Basic.AnyError
import Mathlib.Data.Finset.Union
import Mathlib.Tactic

set_option autoImplicit false

/-! # The authorized-keys cache

`AuthorizedKeysCache::from_text` walks the entries of an `authorized_keys` file: entries with
options are counted and ignored, plain ones are collected by their serialized key. The entries
come from the parser of the `ssh_key` crate, and the serialization is that crate's too, so both
are parameters (`SshKey`).

`fromText_eq_ok_iff` says exactly which files are accepted, and what the cache then holds.
-/

namespace Narrowd.AuthorizedKeys

/-- `ssh_key::Algorithm`. -/
inductive Algorithm
  | dsa
  | ecdsa (curve : String)
  | ed25519
  | rsa (hash : Option String)
  | skEcdsaSha2NistP256
  | skEd25519
  | other (name : String)
  deriving DecidableEq, Repr

/-- The serialized form of a public key. -/
abbrev KeyBytes := List UInt8

/-- `ssh_key::authorized_keys::Entry`. -/
structure Entry (K : Type) where
  configOpts : String
  publicKey : K

/-- An entry without options: only these grant access. -/
def Entry.isPlain {K : Type} (entry : Entry K) : Bool := entry.configOpts.isEmpty

/-- What the daemon uses of the `ssh_key` crate: the entries of a text in order (`Err` for a line
that does not parse), and the algorithm and the serialized form of a key. -/
structure SshKey (K : Type) where
  authorizedKeys : String → List (Except String (Entry K))
  algorithm : K → Algorithm
  algorithmDebug : Algorithm → String
  toBytes : K → Except String KeyBytes

/-- The keys that may log in. -/
structure AuthorizedKeysCache where
  acceptedKeys : Finset KeyBytes
  ignoredEntries : Nat
  deriving DecidableEq

variable {K : Type} {e : Entry K} {cache' : AuthorizedKeysCache} {keyBytes : KeyBytes}
  {err text : String} {ssh : SshKey K} {maxEntries : Nat}

namespace AuthorizedKeysCache

def empty : AuthorizedKeysCache := { acceptedKeys := ∅, ignoredEntries := 0 }

/-- The loop of `from_text`, from entry number `index` on. -/
def fromEntries (ssh : SshKey K) (maxEntries : Nat) (index : Nat) (cache : AuthorizedKeysCache) :
    List (Except String (Entry K)) → Except AnyError AuthorizedKeysCache
  | [] => .ok cache
  | entry :: rest =>
      if maxEntries ≤ index then
        .error ⟨s!"authorized keys file exceeds configured entry limit of {maxEntries}", []⟩
      else
        match entry with
        | .error err => .error ⟨"failed to parse authorized_keys entry: " ++ err, []⟩
        | .ok entry =>
            if !entry.isPlain then
              fromEntries ssh maxEntries (index + 1)
                { cache with ignoredEntries := cache.ignoredEntries + 1 } rest
            else
              match ssh.toBytes entry.publicKey with
              | .error err => .error ⟨"failed to serialize authorized public key", [err]⟩
              | .ok keyBytes =>
                  if keyBytes ∈ cache.acceptedKeys then
                    .error ⟨"authorized keys file contains a duplicate plain key entry", []⟩
                  else
                    fromEntries ssh maxEntries (index + 1)
                      { cache with acceptedKeys := insert keyBytes cache.acceptedKeys } rest

def fromText (ssh : SshKey K) (text : String) (maxEntries : Nat) :
    Except AnyError AuthorizedKeysCache :=
  fromEntries ssh maxEntries 0 empty (ssh.authorizedKeys text)

def contains (cache : AuthorizedKeysCache) (ssh : SshKey K) (publicKey : K) :
    Except AnyError Bool :=
  match ssh.toBytes publicKey with
  | .ok keyBytes => .ok (decide (keyBytes ∈ cache.acceptedKeys))
  | .error err => .error ⟨"failed to serialize offered public key", [err]⟩

/-! ## What `from_text` accepts -/

/-- The entries all parsed, as `goods`, and `keys` are the serialized plain ones, in order. -/
structure Parsed (ssh : SshKey K) (es : List (Except String (Entry K))) (goods : List (Entry K))
    (keys : List KeyBytes) : Prop where
  entries : es = goods.map .ok
  plain : (goods.filter Entry.isPlain).map (fun e => ssh.toBytes e.publicKey) = keys.map .ok

/-- The number of entries with options. -/
def optioned (goods : List (Entry K)) : Nat := goods.countP fun e => !e.isPlain

section

variable {ssh : SshKey K} {es : List (Except String (Entry K))} {goods : List (Entry K)}
  {keys : List KeyBytes}

theorem Parsed.nil : Parsed ssh [] [] [] := ⟨rfl, rfl⟩

theorem Parsed.cons_optioned (h : Parsed ssh es goods keys) (he : e.isPlain = false) :
    Parsed ssh (.ok e :: es) (e :: goods) keys := by
  refine ⟨by rw [h.entries]; rfl, ?_⟩
  rw [List.filter_cons_of_neg (by simp [he])]
  exact h.plain

theorem Parsed.cons_plain (h : Parsed ssh es goods keys) (he : e.isPlain = true)
    (hb : ssh.toBytes e.publicKey = .ok keyBytes) :
    Parsed ssh (.ok e :: es) (e :: goods) (keyBytes :: keys) := by
  refine ⟨by rw [h.entries]; rfl, ?_⟩
  rw [List.filter_cons_of_pos he, List.map_cons, List.map_cons, h.plain, hb]

/-- The first entry of a parsed list: it has options, or it is plain and serializes. -/
theorem Parsed.cases_cons {x : Except String (Entry K)} (h : Parsed ssh (x :: es) goods keys) :
    ∃ e goods', x = .ok e ∧ goods = e :: goods' ∧
      ((e.isPlain = false ∧ Parsed ssh es goods' keys) ∨
        (e.isPlain = true ∧ ∃ keyBytes keys', keys = keyBytes :: keys' ∧
          ssh.toBytes e.publicKey = .ok keyBytes ∧ Parsed ssh es goods' keys')) := by
  obtain ⟨hes, hplain⟩ := h
  cases goods with
  | nil => simp at hes
  | cons e goods' =>
      simp only [List.map_cons, List.cons.injEq] at hes
      refine ⟨e, goods', hes.1, rfl, ?_⟩
      by_cases he : e.isPlain = true
      · rw [List.filter_cons_of_pos he] at hplain
        cases keys with
        | nil => simp at hplain
        | cons keyBytes keys' =>
            simp only [List.map_cons, List.cons.injEq] at hplain
            exact Or.inr ⟨he, keyBytes, keys', rfl, hplain.1, hes.2, hplain.2⟩
      · rw [List.filter_cons_of_neg (by simpa using he)] at hplain
        exact Or.inl ⟨by simpa using he, hes.2, hplain⟩

/-- The plain entries of a parsed list, by their keys. -/
theorem Parsed.mem_keys (h : Parsed ssh es goods keys) {k : KeyBytes} :
    k ∈ keys ↔ ∃ e, .ok e ∈ es ∧ e.isPlain = true ∧ ssh.toBytes e.publicKey = .ok k := by
  have hmem : (Except.ok k : Except String KeyBytes) ∈ keys.map Except.ok ↔ k ∈ keys := by
    simp [List.mem_map]
  rw [← hmem, ← h.plain, h.entries]
  simp only [List.mem_map, List.mem_filter, Except.ok.injEq, exists_eq_right]
  constructor
  · rintro ⟨e, ⟨he, hp⟩, hk⟩
    exact ⟨e, he, hp, hk⟩
  · rintro ⟨e, he, hp, hk⟩
    exact ⟨e, ⟨he, hp⟩, hk⟩

/-- Walking over `es` takes the cache to `cache'`: every entry parses, and the plain keys are
new and come once. -/
def Adds (ssh : SshKey K) (es : List (Except String (Entry K)))
    (cache cache' : AuthorizedKeysCache) : Prop :=
  ∃ goods keys, Parsed ssh es goods keys ∧ keys.Nodup ∧
    (∀ k ∈ keys, k ∉ cache.acceptedKeys) ∧
    cache' = { acceptedKeys := cache.acceptedKeys ∪ keys.toFinset,
               ignoredEntries := cache.ignoredEntries + optioned goods }

theorem adds_nil_iff {cache : AuthorizedKeysCache} : Adds ssh [] cache cache' ↔ cache' = cache := by
  constructor
  · rintro ⟨goods, keys, ⟨hes, hplain⟩, -, -, rfl⟩
    have hg : goods = [] := by simpa using hes.symm
    subst hg
    have hk : keys = [] := by simpa using hplain.symm
    subst hk
    simp [optioned]
  · rintro rfl
    exact ⟨[], [], Parsed.nil, List.nodup_nil, by simp, by simp [optioned]⟩

theorem not_adds_error {cache : AuthorizedKeysCache} :
    ¬ Adds ssh (.error err :: es) cache cache' := by
  rintro ⟨goods, keys, hp, -⟩
  obtain ⟨e, _, hx, _⟩ := hp.cases_cons
  cases hx

theorem adds_optioned_iff (he : e.isPlain = false) {cache : AuthorizedKeysCache} :
    Adds ssh (.ok e :: es) cache cache' ↔
      Adds ssh es { cache with ignoredEntries := cache.ignoredEntries + 1 } cache' := by
  have hcount : ∀ goods : List (Entry K), optioned (e :: goods) = optioned goods + 1 := by
    intro goods
    simp [optioned, he]
  constructor
  · rintro ⟨goods, keys, hp, hn, hnew, rfl⟩
    obtain ⟨e', goods', hx, rfl, ⟨-, hp'⟩ | ⟨he', -⟩⟩ := hp.cases_cons
    · cases hx
      refine ⟨goods', keys, hp', hn, hnew, ?_⟩
      rw [hcount]
      simp only [AuthorizedKeysCache.mk.injEq, true_and]
      omega
    · cases hx
      rw [he] at he'
      cases he'
  · rintro ⟨goods, keys, hp, hn, hnew, rfl⟩
    refine ⟨e :: goods, keys, hp.cons_optioned he, hn, hnew, ?_⟩
    rw [hcount]
    simp only [AuthorizedKeysCache.mk.injEq, true_and]
    omega

theorem not_adds_unserializable (he : e.isPlain = true) (hb : ssh.toBytes e.publicKey = .error err)
    {cache : AuthorizedKeysCache} : ¬ Adds ssh (.ok e :: es) cache cache' := by
  rintro ⟨goods, keys, hp, -⟩
  obtain ⟨e', goods', hx, -, ⟨he', -⟩ | ⟨-, k, _, -, hk, -⟩⟩ := hp.cases_cons
  · cases hx
    rw [he] at he'
    cases he'
  · cases hx
    rw [hb] at hk
    cases hk

theorem adds_plain_iff (he : e.isPlain = true) (hb : ssh.toBytes e.publicKey = .ok keyBytes)
    {cache : AuthorizedKeysCache} :
    Adds ssh (.ok e :: es) cache cache' ↔
      keyBytes ∉ cache.acceptedKeys ∧
        Adds ssh es { cache with acceptedKeys := insert keyBytes cache.acceptedKeys } cache' := by
  have hcount : ∀ goods : List (Entry K), optioned (e :: goods) = optioned goods := by
    intro goods
    simp [optioned, he]
  constructor
  · rintro ⟨goods, keys, hp, hn, hnew, rfl⟩
    obtain ⟨e', goods', hx, rfl, ⟨he', -⟩ | ⟨-, k, keys', rfl, hk, hp'⟩⟩ := hp.cases_cons
    · cases hx
      rw [he] at he'
      cases he'
    · cases hx
      rw [hb] at hk
      cases hk
      obtain ⟨hk, hn'⟩ := List.nodup_cons.mp hn
      refine ⟨hnew _ (List.mem_cons_self ..), goods', keys', hp', hn', ?_, ?_⟩
      · intro k' hk'
        rw [Finset.mem_insert, not_or]
        exact ⟨fun heq => hk (heq ▸ hk'), hnew k' (List.mem_cons_of_mem _ hk')⟩
      · rw [hcount, List.toFinset_cons]
        simp only [AuthorizedKeysCache.mk.injEq, and_true]
        rw [Finset.union_insert, Finset.insert_union]
  · rintro ⟨hfresh, goods, keys, hp, hn, hnew, rfl⟩
    refine ⟨e :: goods, keyBytes :: keys, hp.cons_plain he hb, ?_, ?_, ?_⟩
    · refine List.nodup_cons.mpr ⟨fun hmem => ?_, hn⟩
      exact hnew keyBytes hmem (Finset.mem_insert_self ..)
    · intro k hk
      rcases List.mem_cons.mp hk with rfl | hk
      · exact hfresh
      · exact fun hmem => hnew k hk (Finset.mem_insert_of_mem hmem)
    · rw [hcount, List.toFinset_cons]
      simp only [AuthorizedKeysCache.mk.injEq, and_true]
      rw [Finset.union_insert, Finset.insert_union]

end

/-- **The loop of `from_text`**, from any point on: it succeeds when the entries left fit the
limit and can be added to the cache. -/
theorem fromEntries_eq_ok_iff (ssh : SshKey K) (maxEntries : Nat)
    (es : List (Except String (Entry K))) (index : Nat) (cache cache' : AuthorizedKeysCache) :
    fromEntries ssh maxEntries index cache es = .ok cache' ↔
      (es = [] ∨ index + es.length ≤ maxEntries) ∧ Adds ssh es cache cache' := by
  induction es generalizing index cache with
  | nil => simp [fromEntries, adds_nil_iff, eq_comm]
  | cons x es ih =>
      unfold fromEntries
      by_cases hmax : maxEntries ≤ index
      · refine iff_of_false (by simp [hmax]) ?_
        rintro ⟨h | h, -⟩
        · cases h
        · rw [List.length_cons] at h
          omega
      · have hroom : (x :: es = [] ∨ index + (x :: es).length ≤ maxEntries) ↔
            (es = [] ∨ (index + 1) + es.length ≤ maxEntries) := by
          cases es with
          | nil => simp; omega
          | cons y ys => simp; omega
        rw [if_neg hmax, hroom]
        cases x with
        | error err => simp [not_adds_error]
        | ok e =>
            by_cases he : e.isPlain = true
            · simp only [he, Bool.not_true, Bool.false_eq_true, if_false]
              cases hb : ssh.toBytes e.publicKey with
              | error err => simp [not_adds_unserializable he hb]
              | ok keyBytes =>
                  rw [adds_plain_iff he hb]
                  by_cases hdup : keyBytes ∈ cache.acceptedKeys
                  · simp [hdup]
                  · simp [hdup, ih]
            · have he' : e.isPlain = false := by simpa using he
              simp only [he', Bool.not_false, if_true, ih, adds_optioned_iff he']

/-- **`from_text` is exact.** It accepts the texts with at most `max_entries` entries that all
parse, whose plain keys serialize and are pairwise different; the cache then holds these keys and
the number of the other entries. -/
theorem fromText_eq_ok_iff {cache : AuthorizedKeysCache} :
    fromText ssh text maxEntries = .ok cache ↔
      (ssh.authorizedKeys text).length ≤ maxEntries ∧
      ∃ goods keys, Parsed ssh (ssh.authorizedKeys text) goods keys ∧ keys.Nodup ∧
        cache = { acceptedKeys := keys.toFinset, ignoredEntries := optioned goods } := by
  have hlen : (ssh.authorizedKeys text = [] ∨ 0 + (ssh.authorizedKeys text).length ≤ maxEntries) ↔
      (ssh.authorizedKeys text).length ≤ maxEntries := by
    constructor
    · rintro (h | h)
      · rw [h]
        exact Nat.zero_le _
      · omega
    · intro h
      right
      omega
  rw [fromText, fromEntries_eq_ok_iff, hlen]
  simp [Adds, empty]

/-- The keys of an accepted text are those of its plain entries. -/
theorem mem_acceptedKeys_of_fromText {cache : AuthorizedKeysCache}
    (h : fromText ssh text maxEntries = .ok cache) (k : KeyBytes) :
    k ∈ cache.acceptedKeys ↔ ∃ e, .ok e ∈ ssh.authorizedKeys text ∧ e.isPlain = true ∧
      ssh.toBytes e.publicKey = .ok k := by
  obtain ⟨-, goods, keys, hp, -, rfl⟩ := fromText_eq_ok_iff.mp h
  rw [List.mem_toFinset]
  exact hp.mem_keys

/-! ## Entry by entry -/

/-- The entry did not parse, or it is plain and its key does not serialize. -/
def isError (ssh : SshKey K) : Except String (Entry K) → Bool
  | .error _ => true
  | .ok e => e.isPlain && !(ssh.toBytes e.publicKey).isOk

/-- The key that a plain entry stands for. -/
def plainKey? (ssh : SshKey K) : Except String (Entry K) → Option KeyBytes
  | .error _ => none
  | .ok e => if e.isPlain then (ssh.toBytes e.publicKey).toOption else none

def isOptioned : Except String (Entry K) → Bool
  | .error _ => false
  | .ok e => !e.isPlain

section

variable {ssh : SshKey K} {es : List (Except String (Entry K))} {goods : List (Entry K)}
  {keys : List KeyBytes}

/-- What `Parsed` asks of a whole list it asks of every entry. -/
theorem exists_parsed_iff :
    (∃ goods keys, Parsed ssh es goods keys) ↔ ∀ x ∈ es, isError ssh x = false := by
  induction es with
  | nil => simpa using ⟨[], [], Parsed.nil⟩
  | cons x es ih =>
      rw [List.forall_mem_cons, ← ih]
      constructor
      · rintro ⟨goods, keys, hp⟩
        obtain ⟨e, goods', rfl, -, ⟨he, hp'⟩ | ⟨he, k, keys', -, hk, hp'⟩⟩ := hp.cases_cons
        · exact ⟨by simp [isError, he], _, _, hp'⟩
        · exact ⟨by simp [isError, hk, Except.isOk, Except.toBool], _, _, hp'⟩
      · rintro ⟨hx, goods, keys, hp⟩
        cases x with
        | error err => simp [isError] at hx
        | ok e =>
            by_cases he : e.isPlain = true
            · cases hk : ssh.toBytes e.publicKey with
              | error err => simp [isError, he, hk, Except.isOk, Except.toBool] at hx
              | ok k => exact ⟨_, _, hp.cons_plain he hk⟩
            · exact ⟨_, _, hp.cons_optioned (by simpa using he)⟩

/-- The keys of a parsed list are those of its plain entries, in order. -/
theorem Parsed.keys_eq (h : Parsed ssh es goods keys) : keys = es.filterMap (plainKey? ssh) := by
  induction es generalizing goods keys with
  | nil =>
      obtain ⟨hes, hplain⟩ := h
      have hg : goods = [] := by simpa using hes.symm
      simpa [hg] using hplain.symm
  | cons x es ih =>
      obtain ⟨e, goods', rfl, -, ⟨he, hp⟩ | ⟨he, k, keys', rfl, hk, hp⟩⟩ := h.cases_cons
      · rw [List.filterMap_cons_none (by simp [plainKey?, he])]
        exact ih hp
      · rw [List.filterMap_cons_some (b := k) (by simp [plainKey?, he, hk, Except.toOption]), ih hp]

theorem Parsed.optioned_eq (h : Parsed ssh es goods keys) :
    optioned goods = es.countP isOptioned := by
  rw [h.entries, List.countP_map]
  rfl

/-- Every entry of a parsed list is plain or has options. -/
theorem Parsed.length_eq (h : Parsed ssh es goods keys) :
    keys.length + optioned goods = es.length := by
  have hplain : keys.length = goods.countP Entry.isPlain := by
    have hmaps := congrArg List.length h.plain
    rw [List.length_map, List.length_map] at hmaps
    rw [List.countP_eq_length_filter, hmaps]
  have hsplit := List.length_eq_countP_add_countP (l := goods) Entry.isPlain
  simp only [Bool.not_eq_true, Bool.decide_eq_false] at hsplit
  rw [hplain, h.entries, List.length_map, optioned, hsplit]

end

/-- **Which texts are accepted, and as what.** A text is accepted if and only if it has at most
`max_entries` entries, none of them is an error and no two plain ones have the same key. The cache
then holds exactly the keys of the plain entries, so that a key which stands there only with options
is not accepted, and every entry is counted once. -/
theorem from_text_exact (ssh : SshKey K) (text : String) (maxEntries : Nat) :
    ((∃ cache, fromText ssh text maxEntries = .ok cache) ↔
      (ssh.authorizedKeys text).length ≤ maxEntries ∧
      (∀ x ∈ ssh.authorizedKeys text, isError ssh x = false) ∧
      (ssh.authorizedKeys text).Pairwise
        (fun x y => ∀ k, plainKey? ssh x = some k → plainKey? ssh y ≠ some k)) ∧
    ∀ cache, fromText ssh text maxEntries = .ok cache →
      (∀ k, k ∈ cache.acceptedKeys ↔ ∃ x ∈ ssh.authorizedKeys text, plainKey? ssh x = some k) ∧
      (∀ publicKey k, ssh.toBytes publicKey = .ok k →
        (cache.contains ssh publicKey = .ok true ↔
          ∃ e, .ok e ∈ ssh.authorizedKeys text ∧ e.isPlain = true ∧
            ssh.toBytes e.publicKey = .ok k)) ∧
      cache.ignoredEntries = (ssh.authorizedKeys text).countP isOptioned ∧
      cache.acceptedKeys.card + cache.ignoredEntries = (ssh.authorizedKeys text).length := by
  have hnodup : (ssh.authorizedKeys text).Pairwise
      (fun x y => ∀ k, plainKey? ssh x = some k → plainKey? ssh y ≠ some k) ↔
      ((ssh.authorizedKeys text).filterMap (plainKey? ssh)).Nodup := by
    rw [List.Nodup, List.pairwise_filterMap]
    constructor
    · refine List.Pairwise.imp ?_
      rintro x y hxy k hx _ hy rfl
      exact hxy k hx hy
    · refine List.Pairwise.imp ?_
      intro x y hxy k hx hy
      exact hxy k hx k hy rfl
  constructor
  · rw [← exists_parsed_iff, hnodup]
    constructor
    · rintro ⟨cache, hcache⟩
      obtain ⟨hlen, goods, keys, hp, hkeys, -⟩ := fromText_eq_ok_iff.mp hcache
      exact ⟨hlen, ⟨goods, keys, hp⟩, hp.keys_eq ▸ hkeys⟩
    · rintro ⟨hlen, ⟨goods, keys, hp⟩, hkeys⟩
      exact ⟨_, fromText_eq_ok_iff.mpr ⟨hlen, goods, keys, hp, hp.keys_eq ▸ hkeys, rfl⟩⟩
  · intro cache hcache
    have hmem := mem_acceptedKeys_of_fromText hcache
    obtain ⟨-, goods, keys, hp, hkeys, rfl⟩ := fromText_eq_ok_iff.mp hcache
    refine ⟨fun k => ?_, fun publicKey k hk => ?_, hp.optioned_eq, ?_⟩
    · rw [List.mem_toFinset, hp.keys_eq, List.mem_filterMap]
    · simp only [contains, hk, Except.ok.injEq, decide_eq_true_eq]
      exact hmem k
    · rw [List.toFinset_card_of_nodup hkeys]
      exact hp.length_eq

end AuthorizedKeysCache

/-! ## Two sample keys -/

inductive SampleKey
  | plain
  | second
  deriving DecidableEq

/-- `ssh-ed25519` and 32 bytes, each with its length before it. -/
def SampleKey.bytes : SampleKey → KeyBytes
  | plain => [0, 0, 0, 11, 115, 115, 104, 45, 101, 100, 50, 53, 53, 49, 57, 0, 0, 0, 32,
      179, 62, 174, 243, 126, 162, 223, 124, 170, 1, 13, 239, 222, 163, 78, 36, 31, 101,
      241, 181, 41, 164, 244, 62, 209, 67, 39, 245, 197, 74, 171, 98]
  | second => [0, 0, 0, 11, 115, 115, 104, 45, 101, 100, 50, 53, 53, 49, 57, 0, 0, 0, 32,
      169, 1, 101, 239, 69, 249, 14, 118, 131, 199, 254, 147, 127, 17, 94, 242, 88, 240,
      15, 62, 63, 211, 13, 155, 239, 28, 79, 20, 185, 229, 79, 22]

def plainEd25519Key : String :=
  "ssh-ed25519 AAAAC3NzaC1lZDI1NTE5AAAAILM+rvN+ot98qgEN796jTiQfZfG1KaT0PtFDJ/XFSqti user@example.com"

def secondEd25519Key : String :=
  "ssh-ed25519 AAAAC3NzaC1lZDI1NTE5AAAAIKkBZe9F+Q52g8f+k38RXvJY8A8+P9MNm+8cTxS55U8W second@example.com"

/-- The `ssh_key` crate on the files that hold one of the sample keys. -/
def sampleSsh : SshKey SampleKey where
  authorizedKeys := fun text =>
    if text = plainEd25519Key then [.ok { configOpts := "", publicKey := .plain }]
    else if text = secondEd25519Key then [.ok { configOpts := "", publicKey := .second }]
    else []
  algorithm := fun _ => .ed25519
  algorithmDebug := fun _ => "Ed25519"
  toBytes := fun k => .ok k.bytes

/-- The cache of the file that holds one sample key. -/
def SampleKey.cache (k : SampleKey) : AuthorizedKeysCache :=
  { acceptedKeys := {k.bytes}, ignoredEntries := 0 }

example : AuthorizedKeysCache.fromText sampleSsh plainEd25519Key 8 = .ok SampleKey.plain.cache :=
  rfl

end Narrowd.AuthorizedKeys
