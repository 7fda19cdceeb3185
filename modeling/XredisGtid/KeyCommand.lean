import Mathlib.Data.List.TakeWhile
import XredisGtid.GtidUtil
import XredisGtid.Command

/-!
# Keys that expire

What Redis says of the commands that give a key an expiry instant: EXPIRE, PEXPIRE,
EXPIREAT, PEXPIREAT, SET with its options, SETEX and PSETEX.  A command that is an error,
or that a condition of it stops, changes no key: it has no database as a result.

A key is gone when the time is past its expiry instant.  Commands then find it missing,
except on a replica and while the append only file is loaded, where keys do not expire.
-/
namespace XredisGtid
open Buffer Decimal

/-! ## Numbers in arguments -/

/-- `isspace(c)` -/
def isSpace (c : UInt8) : Bool := decide (c = 32 ∨ (9 ≤ c ∧ c ≤ 13))

/-- `strtoll(s,NULL,10)` -/
def strtoll (s : Bytes) : Int :=
  let s := s.dropWhile isSpace
  let negative := decide (s.head? = some '-'.toUInt8)
  let s := if negative ∨ s.head? = some '+'.toUInt8 then s.tail else s
  let v : Int := value (s.takeWhile (fun c => IsDigit c)) 0
  max LLONG_MIN (min LLONG_MAX (if negative then -v else v))

/-- The number an argument is the notation of. -/
def getLongLongFromObject (s : Bytes) : Option Int :=
  if s = longText (strtoll s) then some (strtoll s) else none

/-- `strcasecmp(s,name) == 0`, which reads `s` up to a zero byte. -/
def isOption (s name : Bytes) : Bool := equalsIgnoreCase (s.takeWhile (· ≠ 0)) name

theorem takeWhile_digits {l : Bytes} (h : ∀ c ∈ l, IsDigit c) :
    l.takeWhile (fun c => IsDigit c) = l := by
  rw [List.takeWhile_eq_self_iff]
  intro c hc
  exact decide_eq_true (h c hc)

theorem not_isDigit_minus : ¬ IsDigit '-'.toUInt8 := by decide

theorem not_isDigit_plus : ¬ IsDigit '+'.toUInt8 := by decide

/-- A space is below the digits, and so is a sign. -/
theorem isSpace_of_isDigit {c : UInt8} (h : IsDigit c) : isSpace c = false := by
  have h₁ := h.1
  apply decide_eq_false
  rintro (rfl | ⟨-, h₂⟩)
  · exact absurd h₁ (by decide)
  · have := UInt8.le_iff_toNat_le.mp h₂
    have h13 : (13 : UInt8).toNat = 13 := rfl
    omega

/-- Text without a space in front is read from its start on. -/
theorem dropWhile_isSpace {c : UInt8} {l : Bytes} (h : isSpace c = false) :
    (c :: l).dropWhile isSpace = c :: l := by
  rw [List.dropWhile_cons, if_neg (by rw [h]; exact Bool.false_ne_true)]

theorem strtoll_decimal (n : Nat) : strtoll (decimal n) = max LLONG_MIN (min LLONG_MAX n) := by
  obtain ⟨c, l, hl⟩ := List.exists_cons_of_length_pos (length_decimal_pos n)
  have hdigits := isDigit_decimal n
  have hc : IsDigit c := hdigits c (by rw [hl]; exact List.mem_cons_self)
  have hminus : c ≠ '-'.toUInt8 := fun h => not_isDigit_minus (h ▸ hc)
  have hplus : c ≠ '+'.toUInt8 := fun h => not_isDigit_plus (h ▸ hc)
  have hspace : (decimal n).dropWhile isSpace = decimal n := by
    rw [hl]
    exact dropWhile_isSpace (isSpace_of_isDigit hc)
  have hhead : (decimal n).head? = some c := by rw [hl]; rfl
  rw [strtoll, hspace, hhead]
  simp only [Option.some.injEq, hminus, hplus, decide_false, Bool.false_eq_true, or_self, if_false]
  rw [takeWhile_digits hdigits, value_decimal]

theorem strtoll_minus (n : Nat) :
    strtoll ('-'.toUInt8 :: decimal n) = max LLONG_MIN (min LLONG_MAX (-(n : Int))) := by
  have hspace : ('-'.toUInt8 :: decimal n).dropWhile isSpace = '-'.toUInt8 :: decimal n :=
    dropWhile_isSpace (by decide)
  rw [strtoll, hspace]
  simp only [List.head?_cons, decide_true, true_or, if_true, List.tail_cons]
  rw [takeWhile_digits (isDigit_decimal n), value_decimal]

/-- **`strtoll` reads the notation of a number.** -/
theorem strtoll_longText {x : Int} (hlow : LLONG_MIN ≤ x) (hhigh : x ≤ LLONG_MAX) :
    strtoll (longText x) = x := by
  rw [longText]
  split
  · rw [strtoll_minus, Int.toNat_of_nonneg (by omega), Int.neg_neg, min_eq_right hhigh,
      max_eq_right hlow]
  · rw [strtoll_decimal, Int.toNat_of_nonneg (by omega), min_eq_right hhigh, max_eq_right hlow]

/-- Without its last digits, a number is divided by a power of ten. -/
theorem strtoll_take {x : Int} (hx : 0 ≤ x) (hmax : x ≤ LLONG_MAX) {k : Nat}
    (hk : k ≤ (longText x).length) :
    strtoll ((longText x).take k) = x / 10 ^ ((longText x).length - k) := by
  obtain ⟨n, rfl⟩ := Int.eq_ofNat_of_zero_le hx
  have htext : longText (n : Int) = decimal n := if_neg (by omega)
  rw [htext] at hk ⊢
  have hcast : (n : Int) / 10 ^ ((decimal n).length - k) =
      ((n / 10 ^ ((decimal n).length - k) : Nat) : Int) := by
    rw [Int.natCast_ediv, Int.natCast_pow]
    rfl
  have hle : ((n / 10 ^ ((decimal n).length - k) : Nat) : Int) ≤ LLONG_MAX :=
    le_trans (Int.ofNat_le.mpr (Nat.div_le_self _ _)) hmax
  rw [hcast]
  rcases Nat.eq_zero_or_pos k with rfl | hpos
  · rw [Nat.sub_zero, Nat.div_eq_of_lt (lt_pow_length_decimal n), List.take_zero]
    rfl
  · rw [take_decimal hpos hk, strtoll_decimal, min_eq_right hle,
      max_eq_right (le_trans (by decide) (Int.natCast_nonneg _))]

theorem strtoll_range (s : Bytes) : LLONG_MIN ≤ strtoll s ∧ strtoll s ≤ LLONG_MAX :=
  ⟨le_max_left _ _, max_le (by decide) (min_le_left _ _)⟩

theorem getLongLongFromObject_longText {x : Int} (hlow : LLONG_MIN ≤ x) (hhigh : x ≤ LLONG_MAX) :
    getLongLongFromObject (longText x) = some x := by
  rw [getLongLongFromObject, strtoll_longText hlow hhigh, if_pos rfl]

theorem strtoll_of_getLongLongFromObject {s : Bytes} {x : Int}
    (h : getLongLongFromObject s = some x) : strtoll s = x := by
  rw [getLongLongFromObject] at h
  split at h
  · exact Option.some.inj h
  · cases h

/-! ## Databases -/

inductive KeyValue where
  | string (text : Bytes)
  /-- A list, a set or another type. -/
  | other (contents : Bytes)
deriving DecidableEq

structure KeyEntry where
  value : KeyValue
  /-- The expiry instant in milliseconds, if the key has one. -/
  expire : Option Int
deriving DecidableEq

abbrev RedisDb := Bytes → Option KeyEntry

/-- The key as a read at a time finds it. -/
def RedisDb.read (db : RedisDb) (now : Int) (key : Bytes) : Option KeyEntry :=
  (db key).filter (fun entry => entry.expire.all (now ≤ ·))

theorem RedisDb.read_eq_some {db : RedisDb} {now : Int} {key : Bytes} {entry : KeyEntry} :
    db.read now key = some entry ↔ db key = some entry ∧ entry.expire.all (now ≤ ·) := by
  rw [RedisDb.read, Option.filter_eq_some_iff]

theorem RedisDb.read_congr {db db' : RedisDb} (now : Int) {key : Bytes} (h : db key = db' key) :
    db.read now key = db'.read now key := by
  rw [RedisDb.read, RedisDb.read, h]

/-- A deadline that has passed is as good as no key. -/
theorem RedisDb.read_of_past {db : RedisDb} {now when : Int} {key : Bytes} {entry : KeyEntry}
    (h : db key = some entry) (hwhen : entry.expire = some when) (hpast : when < now) :
    db.read now key = none := by
  rw [RedisDb.read, h, Option.filter_some, hwhen, Option.all_some,
    if_neg (by rw [decide_eq_true_iff]; omega)]

theorem RedisDb.read_of_none {db : RedisDb} {key : Bytes} (now : Int) (h : db key = none) :
    db.read now key = none := by
  rw [RedisDb.read, h, Option.filter_none]

structure RedisTime where
  mstime : Int
  /-- Neither a replica nor loading the append only file. -/
  expires : Bool

def lookupKeyWrite (now : RedisTime) (db : RedisDb) (key : Bytes) : Option KeyEntry :=
  if now.expires then db.read now.mstime key else db key

/-! ## Commands -/

/-- The instant that the argument of EXPIRE and its like stands for. -/
def expireWhen (basetime : Int) (seconds : Bool) (param : Bytes) : Option Int := do
  let when ← getLongLongFromObject param
  let when := (if seconds then when * 1000 else when) + basetime
  guard (LLONG_MIN ≤ when ∧ when ≤ LLONG_MAX)
  some when

def expireGenericCommand (now : RedisTime) (basetime : Int) (seconds : Bool) (db : RedisDb)
    (key param : Bytes) : Option RedisDb := do
  let when ← expireWhen basetime seconds param
  let entry ← lookupKeyWrite now db key
  -- a deadline that has passed deletes the key
  if when ≤ now.mstime ∧ now.expires then some (Function.update db key none)
  else some (Function.update db key (some { entry with expire := some when }))

inductive ExpireOption where
  | ex
  | px
  | exat
  | pxat
deriving DecidableEq

structure SetArguments where
  nx : Bool
  xx : Bool
  get : Bool
  keepttl : Bool
  /-- The last option that gives an expiry instant, and its argument. -/
  expire : Option (ExpireOption × Bytes)

def SetArguments.none : SetArguments := ⟨false, false, false, false, .none⟩

/-- An option of SET without an argument. -/
def SetArguments.flag (args : SetArguments) (opt : Bytes) : Option SetArguments :=
  if isOption opt (['n', 'x'].map Char.toUInt8) ∧ ¬ args.xx ∧ ¬ args.get then
    some { args with nx := true }
  else if isOption opt (['x', 'x'].map Char.toUInt8) ∧ ¬ args.nx then some { args with xx := true }
  else if isOption opt (['g', 'e', 't'].map Char.toUInt8) ∧ ¬ args.nx then
    some { args with get := true }
  else if isOption opt (['k', 'e', 'e', 'p', 't', 't', 'l'].map Char.toUInt8) ∧
      args.expire.isNone then
    some { args with keepttl := true }
  else .none

def ExpireOption.find (opt : Bytes) : Option ExpireOption :=
  if isOption opt (['e', 'x'].map Char.toUInt8) then some .ex
  else if isOption opt (['p', 'x'].map Char.toUInt8) then some .px
  else if isOption opt (['e', 'x', 'a', 't'].map Char.toUInt8) then some .exat
  else if isOption opt (['p', 'x', 'a', 't'].map Char.toUInt8) then some .pxat
  else none

/-- An option of SET with an argument: it excludes KEEPTTL and the other three of its kind. -/
def SetArguments.deadline (args : SetArguments) (opt next : Bytes) : Option SetArguments := do
  let option ← ExpireOption.find opt
  guard (¬ args.keepttl ∧ args.expire.all (fun expire => decide (expire.1 = option)))
  some { args with expire := some (option, next) }

/-- The options of SET, `none` for a syntax error. -/
def parseExtendedStringArguments : SetArguments → List Bytes → Option SetArguments
  | args, [] => some args
  | args, opt :: rest =>
    match args.flag opt, rest with
    | some args, rest => parseExtendedStringArguments args rest
    | .none, [] => .none
    | .none, next :: rest => do parseExtendedStringArguments (← args.deadline opt next) rest

/-- The expiry instant that an option and its argument stand for. -/
def ExpireOption.when (option : ExpireOption) (mstime : Int) (text : Bytes) : Option Int := do
  let n ← getLongLongFromObject text
  guard (0 < n)
  let milliseconds := if option = .ex ∨ option = .exat then n * 1000 else n
  let when := if option = .ex ∨ option = .px then milliseconds + mstime else milliseconds
  guard (0 < when ∧ when ≤ LLONG_MAX)
  some when

/-- NX, XX and GET against the key as it is. -/
def SetArguments.allow (args : SetArguments) (entry : Option KeyEntry) : Bool :=
  (!args.nx || entry.isNone) && (!args.xx || entry.isSome) &&
    (!args.get || entry.all (fun entry => match entry.value with
      | .string _ => true
      | .other _ => false))

def setGenericCommand (now : RedisTime) (args : SetArguments) (db : RedisDb) (key val : Bytes) :
    Option RedisDb := do
  let expire ← match args.expire with
    | .none => some (if args.keepttl then (lookupKeyWrite now db key).bind (·.expire) else .none)
    | some (option, text) => (option.when now.mstime text).map some
  guard (args.allow (lookupKeyWrite now db key))
  some (Function.update db key (some ⟨.string val, expire⟩))

inductive KeyCommand where
  | expireCommand
  | pexpireCommand
  | expireatCommand
  | pexpireatCommand
  | setCommand
  | setexCommand
  | psetexCommand
deriving DecidableEq

def KeyCommand.name : KeyCommand → Bytes
  | .expireCommand => ['E', 'X', 'P', 'I', 'R', 'E'].map Char.toUInt8
  | .pexpireCommand => ['P', 'E', 'X', 'P', 'I', 'R', 'E'].map Char.toUInt8
  | .expireatCommand => ['E', 'X', 'P', 'I', 'R', 'E', 'A', 'T'].map Char.toUInt8
  | .pexpireatCommand => ['P', 'E', 'X', 'P', 'I', 'R', 'E', 'A', 'T'].map Char.toUInt8
  | .setCommand => ['S', 'E', 'T'].map Char.toUInt8
  | .setexCommand => ['S', 'E', 'T', 'E', 'X'].map Char.toUInt8
  | .psetexCommand => ['P', 'S', 'E', 'T', 'E', 'X'].map Char.toUInt8

/-- `lookupCommand`, for the commands of this module. -/
def lookupKeyCommand (name : Bytes) : Option KeyCommand :=
  [.expireCommand, .pexpireCommand, .expireatCommand, .pexpireatCommand, .setCommand,
    .setexCommand, .psetexCommand].find? (fun cmd => equalsIgnoreCase name cmd.name)

/-- The command on its arguments, which start with its name. -/
def KeyCommand.call (cmd : KeyCommand) (now : RedisTime) (db : RedisDb) (argv : List Bytes) :
    Option RedisDb :=
  match cmd, argv with
  | .expireCommand, [_, key, param] => expireGenericCommand now now.mstime true db key param
  | .pexpireCommand, [_, key, param] => expireGenericCommand now now.mstime false db key param
  | .expireatCommand, [_, key, param] => expireGenericCommand now 0 true db key param
  | .pexpireatCommand, [_, key, param] => expireGenericCommand now 0 false db key param
  | .setCommand, _ :: key :: val :: options => do
    setGenericCommand now (← parseExtendedStringArguments SetArguments.none options) db key val
  | .setexCommand, [_, key, param, val] =>
    setGenericCommand now { SetArguments.none with expire := some (.ex, param) } db key val
  | .psetexCommand, [_, key, param, val] =>
    setGenericCommand now { SetArguments.none with expire := some (.px, param) } db key val
  | _, _ => none

def callKeyCommand (now : RedisTime) (db : RedisDb) (argv : List Bytes) : Option RedisDb := do
  (← lookupKeyCommand (← argv.head?)).call now db argv

/-! ## What they do -/

variable {now : RedisTime} {db db' : RedisDb} {key val : Bytes} {t w : Int}

theorem of_guard {p : Prop} [Decidable p] {u : Unit} (h : (guard p : Option Unit) = some u) : p := by
  by_contra hp
  rw [guard, if_neg hp] at h
  cases h

theorem lookupKeyWrite_loading (t : Int) (db : RedisDb) (key : Bytes) :
    lookupKeyWrite ⟨t, false⟩ db key = db key := rfl

theorem eq_of_lookupKeyWrite {entry : KeyEntry} (h : lookupKeyWrite now db key = some entry) :
    db key = some entry := by
  rw [lookupKeyWrite] at h
  split at h
  · exact (RedisDb.read_eq_some.mp h).1
  · exact h

theorem expireWhen_eq_some {basetime : Int} {seconds : Bool} {param : Bytes}
    (h : expireWhen basetime seconds param = some w) :
    w = (if seconds then strtoll param * 1000 else strtoll param) + basetime ∧
      LLONG_MIN ≤ w ∧ w ≤ LLONG_MAX := by
  obtain ⟨n, hn, h⟩ := Option.bind_eq_some_iff.mp h
  obtain ⟨_, hrange, h⟩ := Option.bind_eq_some_iff.mp h
  cases h
  rw [strtoll_of_getLongLongFromObject hn]
  exact ⟨rfl, of_guard hrange⟩

/-- **An absolute deadline can be set later**: loaded from a file, PEXPIREAT with the instant
leaves every key as a command that set this instant before left it. -/
theorem expireGenericCommand_later {basetime : Int} {seconds : Bool} {param : Bytes}
    (h : expireGenericCommand now basetime seconds db key param = some db') :
    ∃ when, expireWhen basetime seconds param = some when ∧ ∀ t', ∃ db'',
      expireGenericCommand ⟨t', false⟩ 0 false db key (longText when) = some db'' ∧
        ∀ later, now.mstime < later → ∀ k, db''.read later k = db'.read later k := by
  obtain ⟨when, hwhen, h⟩ := Option.bind_eq_some_iff.mp h
  obtain ⟨entry, hentry, h⟩ := Option.bind_eq_some_iff.mp h
  obtain ⟨-, hlow, hhigh⟩ := expireWhen_eq_some hwhen
  refine ⟨when, hwhen, fun t' => ?_⟩
  refine ⟨Function.update db key (some { entry with expire := some when }), ?_, ?_⟩
  · have hread : expireWhen 0 false (longText when) = some when := by
      rw [expireWhen, getLongLongFromObject_longText hlow hhigh, Option.bind_eq_bind,
        Option.bind_some, if_neg Bool.false_ne_true, Int.add_zero]
      simp only [hlow, hhigh, and_self, guard_true, Option.pure_def, Option.bind_eq_bind,
        Option.bind_some]
    rw [expireGenericCommand, hread, Option.bind_eq_bind, Option.bind_some,
      lookupKeyWrite_loading, eq_of_lookupKeyWrite hentry, Option.bind_eq_bind, Option.bind_some,
      if_neg (fun hand => Bool.false_ne_true hand.2)]
  · intro later hlater k
    split at h
    · next hpast =>
      cases h
      by_cases hk : k = key
      · subst hk
        rw [RedisDb.read_of_none later (Function.update_self _ _ _)]
        exact RedisDb.read_of_past (Function.update_self _ _ _) rfl (by omega)
      · apply RedisDb.read_congr
        rw [Function.update_of_ne hk, Function.update_of_ne hk]
    · cases h
      rfl

/-! ### SET -/

variable {args args' : SetArguments} {option : ExpireOption} {text opt next : Bytes}

theorem ExpireOption.when_eq_some (h : option.when t text = some w) :
    0 < strtoll text ∧ 0 < w ∧ w ≤ LLONG_MAX ∧
      w = (if option = .ex ∨ option = .exat then strtoll text * 1000 else strtoll text) +
        (if option = .ex ∨ option = .px then t else 0) := by
  obtain ⟨n, hn, h⟩ := Option.bind_eq_some_iff.mp h
  obtain ⟨_, hpos, h⟩ := Option.bind_eq_some_iff.mp h
  obtain ⟨_, hrange, h⟩ := Option.bind_eq_some_iff.mp h
  cases h
  rw [strtoll_of_getLongLongFromObject hn]
  refine ⟨of_guard hpos, (of_guard hrange).1, (of_guard hrange).2, ?_⟩
  split
  · rfl
  · rw [Int.add_zero]

/-- The instant that PXAT takes is the one of its argument. -/
theorem ExpireOption.when_pxat (hlow : LLONG_MIN ≤ w) (hhigh : w ≤ LLONG_MAX) :
    ExpireOption.when .pxat t (longText w) = if 0 < w then some w else none := by
  rw [ExpireOption.when, getLongLongFromObject_longText hlow hhigh]
  by_cases hpos : 0 < w
  · simp [hpos, hhigh]
  · simp [hpos]

theorem setGenericCommand_eq_some (hexpire : args.expire = some (option, text)) :
    setGenericCommand now args db key val = some db' ↔
      ∃ when, option.when now.mstime text = some when ∧ args.allow (lookupKeyWrite now db key) ∧
        db' = Function.update db key (some ⟨.string val, some when⟩) := by
  rw [setGenericCommand, hexpire]
  constructor
  · intro h
    obtain ⟨expire, hexpire, h⟩ := Option.bind_eq_some_iff.mp h
    obtain ⟨when, hwhen, rfl⟩ := Option.map_eq_some_iff.mp hexpire
    obtain ⟨_, hallow, h⟩ := Option.bind_eq_some_iff.mp h
    exact ⟨when, hwhen, of_guard hallow, (Option.some.inj h).symm⟩
  · rintro ⟨when, hwhen, hallow, rfl⟩
    simp only [hwhen, hallow, Option.map_some, guard_true, Option.pure_def, Option.bind_eq_bind,
      Option.bind_some]

/-- A relative deadline moves with the clock. -/
theorem ExpireOption.when_later {t' w' : Int} (hrel : option = .ex ∨ option = .px)
    (h : option.when t text = some w) (h' : option.when t' text = some w') : w' = w + (t' - t) := by
  obtain ⟨-, -, -, hw⟩ := when_eq_some h
  obtain ⟨-, -, -, hw'⟩ := when_eq_some h'
  rw [if_pos hrel] at hw hw'
  omega

/-- An instant that a relative option stands for is not past yet. -/
theorem ExpireOption.lt_when (hrel : option = .ex ∨ option = .px)
    (h : option.when t text = some w) : t + 1 ≤ w := by
  obtain ⟨hpos, -, -, hw⟩ := when_eq_some h
  rw [if_pos hrel] at hw
  split at hw <;> omega

/-- The keys as commands find them, without their expiry instants. -/
def RedisDb.persist (now : RedisTime) (db : RedisDb) : RedisDb :=
  fun key => (lookupKeyWrite now db key).map (fun entry => { entry with expire := none })

theorem RedisDb.persist_expire {entry : KeyEntry} (h : db.persist now key = some entry) :
    entry.expire = none := by
  obtain ⟨_, -, rfl⟩ := Option.map_eq_some_iff.mp h
  rfl

theorem lookupKeyWrite_persist (now' : RedisTime) :
    lookupKeyWrite now' (db.persist now) key = db.persist now key := by
  rw [lookupKeyWrite]
  split
  · cases hentry : db.persist now key with
    | none => exact RedisDb.read_of_none _ hentry
    | some entry =>
      apply RedisDb.read_eq_some.mpr
      rw [RedisDb.persist_expire hentry]
      exact ⟨hentry, rfl⟩
  · rfl

/-- Only the type of the key's value counts. -/
theorem SetArguments.allow_persist :
    args.allow (db.persist now key) = args.allow (lookupKeyWrite now db key) := by
  rw [RedisDb.persist, SetArguments.allow, SetArguments.allow]
  cases lookupKeyWrite now db key <;> rfl

/-- A SET that did something does the same to keys that do not expire, at any time. -/
theorem setGenericCommand_persist {now' : RedisTime} {w' : Int}
    (hexpire : args.expire = some (option, text))
    (h : setGenericCommand now args db key val = some db') (hw' : option.when now'.mstime text = some w') :
    setGenericCommand now' args (db.persist now) key val =
      some (Function.update (db.persist now) key (some ⟨.string val, some w'⟩)) := by
  obtain ⟨_, -, hallow, -⟩ := (setGenericCommand_eq_some hexpire).mp h
  apply (setGenericCommand_eq_some hexpire).mpr
  refine ⟨w', hw', ?_, rfl⟩
  rw [lookupKeyWrite_persist, SetArguments.allow_persist]
  exact hallow

/-- A key with an instant that is not past is found with that instant only. -/
theorem RedisDb.read_ne {entry : KeyEntry} (h : db key = some entry) (hw : entry.expire = some w)
    (hle : t ≤ w) (hne : ∀ entry', db' key = some entry' → entry'.expire ≠ some w) :
    db'.read t key ≠ db.read t key := by
  have hfound : db.read t key = some entry := by
    apply RedisDb.read_eq_some.mpr
    rw [hw]
    exact ⟨h, decide_eq_true hle⟩
  intro heq
  rw [hfound] at heq
  exact hne entry (RedisDb.read_eq_some.mp heq).1 hw

/-! ### Options -/

/-- The letters of a name, in lower case. -/
theorem isOption_unique {name : Bytes} (h : isOption opt name = true) (hne : equalsIgnoreCase name text = false) :
    isOption opt text = false := by
  apply Bool.eq_false_iff.mpr
  intro h'
  apply Bool.eq_false_iff.mp hne
  simp only [isOption, equalsIgnoreCase, beq_iff_eq] at h h' ⊢
  exact h.symm.trans h'

/-- PX in front, in any case. -/
theorem flag_px (h : isOption opt (['p', 'x'].map Char.toUInt8) = true) : args.flag opt = none := by
  rw [SetArguments.flag, isOption_unique h (by decide), isOption_unique h (by decide),
    isOption_unique h (by decide), isOption_unique h (by decide)]
  simp only [Bool.false_eq_true, false_and, if_false]

theorem find_px (h : isOption opt (['p', 'x'].map Char.toUInt8) = true) :
    ExpireOption.find opt = some .px := by
  rw [ExpireOption.find, isOption_unique h (by decide), h, if_neg Bool.false_ne_true, if_pos rfl]

theorem flag_expire (h : args.flag opt = some args') (hexpire : args.expire = some (option, text)) :
    args'.expire = some (option, text) := by
  rw [SetArguments.flag, hexpire] at h
  split at h
  · cases h
    rfl
  split at h
  · cases h
    rfl
  split at h
  · cases h
    rfl
  split at h
  · next hand => exact absurd hand.2 Bool.false_ne_true
  · cases h

/-- An expiry instant excludes options of other kinds behind it. -/
theorem parseExtendedStringArguments_kind {options : List Bytes}
    (h : parseExtendedStringArguments args options = some args')
    (hexpire : args.expire = some (option, text)) :
    ∃ text', args'.expire = some (option, text') := by
  fun_induction parseExtendedStringArguments args options generalizing text with
  | case1 args =>
    cases h
    exact ⟨text, hexpire⟩
  | case2 args opt rest args₁ hflag ih => exact ih h (flag_expire hflag hexpire)
  | case3 => cases h
  | case4 args opt hflag next rest ih =>
    obtain ⟨args₁, hdeadline, h⟩ := Option.bind_eq_some_iff.mp h
    obtain ⟨option', hfind, hdeadline⟩ := Option.bind_eq_some_iff.mp hdeadline
    obtain ⟨_, hguard, hdeadline⟩ := Option.bind_eq_some_iff.mp hdeadline
    have hkind := (of_guard hguard).2
    rw [hexpire, Option.all_some, decide_eq_true_iff] at hkind
    cases hdeadline
    apply ih _ h
    rw [← hkind]

end XredisGtid
