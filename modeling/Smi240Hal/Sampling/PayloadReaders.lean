/-
# Smi240Hal.Sampling.PayloadReaders — what the three builds make of the sensor file

`readEvents` makes one event, puts a payload in it that `readEventPayload` is to overwrite, and posts
it whatever has come of that.  The builds differ in that first payload, and in how a token becomes a
coordinate: two of them take the `double` of `::atof`, which is 0 for what is not a number, times the
resolution, and store it in a `float`; the AIDL build takes the `float` of `std::stof`, which throws,
and nothing on the sampling thread catches.

What the C library and the machine make of tokens and products is a parameter, and so are the numbers.
-/
import Smi240Hal.Lib.Strtol
import Smi240Hal.Sampling.SensorLoop
import Mathlib.Data.List.Basic

namespace Smi240Hal.Sampling

open Smi240Hal.Lib.Strtol

/-! ## Tokens -/

/-- What `istream_iterator<std::string>` finds behind the characters of a word it has begun. -/
def words : List UInt8 → List UInt8 → List (List UInt8)
  | word, [] => if word = [] then [] else [word]
  | word, c :: cs =>
      if isSpace c then
        if word = [] then words [] cs else word :: words [] cs
      else words (word ++ [c]) cs

/-- The tokens of a text that white space separates. -/
def tokens (data : List UInt8) : List (List UInt8) := words [] data

/-! ## Events -/

/-- What of `SensorInfo` goes into an event. -/
structure SensorInfo (N : Type*) where
  sensorHandle : Int
  type : Int
  resolution : N

/-- `SensorStatus`. -/
inductive SensorStatus
  | NO_CONTACT
  | UNRELIABLE
  | ACCURACY_LOW
  | ACCURACY_MEDIUM
  | ACCURACY_HIGH
deriving DecidableEq, Repr

/-- The union `EventPayload`, as far as it is written. -/
inductive Payload (N : Type*)
  /-- `vec3`; without a status where nothing has been written to it. -/
  | vec3 (x y z : N) (status : Option SensorStatus)
  /-- `meta`, the first member of the AIDL union, all of it zero. -/
  | zeroMeta
deriving DecidableEq, Repr

/-- `Event`, as it is posted. -/
structure Event (N : Type*) where
  sensorHandle : Int
  sensorType : Int
  timestamp : Int
  payload : Payload N
deriving DecidableEq, Repr

/-! ## The readers -/

/-- The result and the string `readFromFile` leaves; `none` is a file that does not open. -/
def readFromFile (file : Option (List UInt8)) : Int × List UInt8 :=
  match file with
  | none => (-1, [])
  | some content => (0, content)

section Readers

/-- The numbers of the C library and of the machine, beside `float`, which is `N`. -/
structure CNumbers.{u} (N : Type u) where
  Double : Type u
  atof : List UInt8 → Double
  /-- `none` is the exception. -/
  stof : List UInt8 → Option N
  /-- A `double` times a `float`, stored in a `float`. -/
  mulDouble : Double → N → N
  mulFloat : N → N → N

variable {N : Type*} (numbers : CNumbers N)

/-- The three tokens, through `::atof`. -/
def fillVec3 (info : SensorInfo N) (payload : Payload N) (data : List UInt8) : Payload N :=
  match tokens data with
  | x :: y :: z :: _ =>
      .vec3 (numbers.mulDouble (numbers.atof x) info.resolution)
        (numbers.mulDouble (numbers.atof y) info.resolution)
        (numbers.mulDouble (numbers.atof z) info.resolution) (some .ACCURACY_HIGH)
  | _ => payload

/-- `fillPayload` of the AIDL build. -/
def fillVec3Aidl (info : SensorInfo N) (payload : Payload N) (data : List UInt8) :
    Option (Payload N) :=
  match tokens data with
  | x :: y :: z :: _ => do
      let x ← numbers.stof x
      let y ← numbers.stof y
      let z ← numbers.stof z
      some (.vec3 (numbers.mulFloat x info.resolution) (numbers.mulFloat y info.resolution)
        (numbers.mulFloat z info.resolution) (some .ACCURACY_HIGH))
  | _ => some payload

namespace Variant

/-- `fillPayload`; the multihal build has it in the body of `readEventPayload`. -/
def fillPayload (v : Variant) (info : SensorInfo N) (payload : Payload N) (data : List UInt8) :
    Option (Payload N) :=
  match v with
  | .v2X => some (fillVec3 numbers info payload data)
  | .aidl => fillVec3Aidl numbers info payload data
  | .multihal => some (fillVec3 numbers info payload data)

/-- A file that does not open leaves the payload as it was. -/
def readEventPayload (v : Variant) (info : SensorInfo N) (payload : Payload N)
    (file : Option (List UInt8)) : Option (Payload N) :=
  let (ret, values) := readFromFile file
  if ret = 0 then v.fillPayload numbers info payload values else some payload

variable [Zero N]

/-- What `readEvents` puts into the payload before it is read: all bytes zero in two of the builds,
the three coordinates zero in the third. -/
def initialPayload : Variant → Payload N
  | .v2X => .vec3 0 0 0 (some .UNRELIABLE)
  | .aidl => .zeroMeta
  | .multihal => .vec3 0 0 0 none

/-- The events that are posted; `none` when the exception ends the process. -/
def readEvents (v : Variant) (info : SensorInfo N) (timestamp : Int)
    (file : Option (List UInt8)) : Option (List (Event N)) := do
  let payload ← v.readEventPayload numbers info v.initialPayload file
  some [⟨info.sensorHandle, info.type, timestamp, payload⟩]

end Variant

/-! ## What comes of a file -/

/-- What a build makes of one token; `none` is the exception. -/
def Variant.coordinate (v : Variant) (resolution : N) (token : List UInt8) : Option N :=
  match v with
  | .aidl => (numbers.stof token).map fun a => numbers.mulFloat a resolution
  | _ => some (numbers.mulDouble (numbers.atof token) resolution)

variable {numbers} {info : SensorInfo N} {timestamp : Int}

theorem coordinate_atof {v : Variant} (hv : v ≠ .aidl) (resolution : N) (token : List UInt8) :
    v.coordinate numbers resolution token =
      some (numbers.mulDouble (numbers.atof token) resolution) := by
  cases v with
  | aidl => exact absurd rfl hv
  | v2X => rfl
  | multihal => rfl

theorem fillPayload_eq (v : Variant) (payload : Payload N) {content x y z : List UInt8}
    {rest : List (List UInt8)} (htokens : tokens content = x :: y :: z :: rest) :
    v.fillPayload numbers info payload content = (do
      let x ← v.coordinate numbers info.resolution x
      let y ← v.coordinate numbers info.resolution y
      let z ← v.coordinate numbers info.resolution z
      some (.vec3 x y z (some .ACCURACY_HIGH))) := by
  cases v with
  | v2X => simp only [Variant.fillPayload, fillVec3, htokens]; rfl
  | multihal => simp only [Variant.fillPayload, fillVec3, htokens]; rfl
  | aidl =>
      simp only [Variant.fillPayload, fillVec3Aidl, htokens, Variant.coordinate]
      cases numbers.stof x with
      | none => rfl
      | some a =>
          cases numbers.stof y with
          | none => rfl
          | some b =>
              cases numbers.stof z with
              | none => rfl
              | some c => rfl

/-- With fewer than three tokens the payload stays as it was. -/
theorem fillPayload_short (v : Variant) (payload : Payload N) {content : List UInt8}
    (hshort : ∀ x y z rest, tokens content ≠ x :: y :: z :: rest) :
    v.fillPayload numbers info payload content = some payload := by
  cases v <;> simp only [Variant.fillPayload, fillVec3, fillVec3Aidl]

variable [Zero N]

theorem readEvents_readable (v : Variant) (content : List UInt8) :
    v.readEvents numbers info timestamp (some content) =
      (v.fillPayload numbers info v.initialPayload content).bind fun payload =>
        some [⟨info.sensorHandle, info.type, timestamp, payload⟩] := rfl

/-! ## Two builds -/

/-- The file opens and begins with three tokens, and the two builds make the same of each. -/
def ReadAlike (numbers : CNumbers N) (v v' : Variant) (resolution : N)
    (file : Option (List UInt8)) : Prop :=
  ∃ content x y z rest, file = some content ∧ tokens content = x :: y :: z :: rest ∧
    ∀ token ∈ [x, y, z], v.coordinate numbers resolution token =
      v'.coordinate numbers resolution token

theorem readEvents_alike {v v' : Variant} {file : Option (List UInt8)}
    (h : ReadAlike numbers v v' info.resolution file) :
    v.readEvents numbers info timestamp file = v'.readEvents numbers info timestamp file := by
  obtain ⟨content, x, y, z, rest, rfl, htokens, halike⟩ := h
  have hx := halike x (by simp)
  have hy := halike y (by simp)
  have hz := halike z (by simp)
  rw [readEvents_readable, readEvents_readable, fillPayload_eq v _ htokens,
    fillPayload_eq v' _ htokens, hx, hy, hz]
theorem initialPayload_injective :
    Function.Injective (Variant.initialPayload : Variant → Payload N) := by
  intro v v' h
  cases v <;> cases v' <;> first | rfl | exact nomatch h

/-- A build that never throws, and another that posts the same. -/
theorem coordinates_of_eq {v v' : Variant} (hv : v ≠ .aidl) {content x y z : List UInt8}
    {rest : List (List UInt8)} (htokens : tokens content = x :: y :: z :: rest)
    (h : v'.readEvents numbers info timestamp (some content) =
      v.readEvents numbers info timestamp (some content)) :
    ∀ token ∈ [x, y, z], v'.coordinate numbers info.resolution token =
      v.coordinate numbers info.resolution token := by
  rw [readEvents_readable, readEvents_readable, fillPayload_eq v _ htokens,
    fillPayload_eq v' _ htokens, coordinate_atof hv, coordinate_atof hv, coordinate_atof hv] at h
  obtain ⟨payload, hpayload, hevent⟩ := Option.bind_eq_some_iff.mp h
  obtain ⟨a, hx, hrest⟩ := Option.bind_eq_some_iff.mp hpayload
  obtain ⟨b, hy, hrest⟩ := Option.bind_eq_some_iff.mp hrest
  obtain ⟨c, hz, hrest⟩ := Option.bind_eq_some_iff.mp hrest
  cases hrest
  simp only [Option.some.injEq, List.cons.injEq, Event.mk.injEq, Payload.vec3.injEq, true_and,
    and_true] at hevent
  obtain ⟨rfl, rfl, rfl⟩ := hevent
  simp only [List.forall_mem_cons, coordinate_atof hv, hx, hy, hz, List.not_mem_nil,
    false_imp_iff, implies_true, and_self]

/-- Two builds post the same, or both none for an exception, exactly where they read alike: what they
begin with is not the same, and a file that does not come to a sample leaves it. -/
theorem readEvents_eq_iff {v v' : Variant} (hne : v ≠ v') (file : Option (List UInt8)) :
    v.readEvents numbers info timestamp file = v'.readEvents numbers info timestamp file ↔
      ReadAlike numbers v v' info.resolution file := by
  refine ⟨fun h => ?_, readEvents_alike⟩
  have hinitial : some [(⟨info.sensorHandle, info.type, timestamp, v.initialPayload⟩ : Event N)] ≠
      some [⟨info.sensorHandle, info.type, timestamp, v'.initialPayload⟩] := by
    intro hsame
    simp only [Option.some.injEq, List.cons.injEq, Event.mk.injEq, true_and, and_true] at hsame
    exact hne (initialPayload_injective hsame)
  cases file with
  | none => exact absurd h hinitial
  | some content =>
      by_cases hshort : ∀ x y z rest, tokens content ≠ x :: y :: z :: rest
      · rw [readEvents_readable, readEvents_readable, fillPayload_short v _ hshort,
          fillPayload_short v' _ hshort] at h
        exact absurd h hinitial
      · push Not at hshort
        obtain ⟨x, y, z, rest, htokens⟩ := hshort
        refine ⟨content, x, y, z, rest, rfl, htokens, ?_⟩
        -- one of the two does not throw
        by_cases hv : v = .aidl
        · exact coordinates_of_eq (fun hv' => hne (hv.trans hv'.symm)) htokens h
        · exact fun token htoken => (coordinates_of_eq hv htokens h.symm token htoken).symm

end Readers

/-! ## When all of them agree -/

section OneParser

variable {N : Type*} [Zero N] [Mul N] (parse : List UInt8 → Option N) {info : SensorInfo N}
  {timestamp : Int}

/-- One partial function on tokens for all the builds, and one product: `::atof` is 0 where it is
undefined, and `std::stof` throws there. -/
def CNumbers.ofParse : CNumbers N where
  Double := N
  atof token := (parse token).getD 0
  stof := parse
  mulDouble a r := a * r
  mulFloat a r := a * r

/-- The event with a sample. -/
def dataEvent (info : SensorInfo N) (timestamp : Int) (x y z : N) : Event N :=
  ⟨info.sensorHandle, info.type, timestamp,
    .vec3 (x * info.resolution) (y * info.resolution) (z * info.resolution)
      (some .ACCURACY_HIGH)⟩

/-- Three numbers are posted by each of the builds. -/
theorem readEvents_numbers (v : Variant) {content x y z : List UInt8} {rest : List (List UInt8)}
    (htokens : tokens content = x :: y :: z :: rest) {a b c : N} (hx : parse x = some a)
    (hy : parse y = some b) (hz : parse z = some c) :
    v.readEvents (.ofParse parse) info timestamp (some content) =
      some [dataEvent info timestamp a b c] := by
  have hcoordinate : ∀ {token a}, parse token = some a →
      v.coordinate (.ofParse parse) info.resolution token = some (a * info.resolution) := by
    intro token a htoken
    cases v <;> simp only [Variant.coordinate, CNumbers.ofParse, htoken, Option.getD_some,
      Option.map_some]
  rw [readEvents_readable, fillPayload_eq v _ htokens, hcoordinate hx, hcoordinate hy,
    hcoordinate hz]
  rfl

variable (info timestamp)

/-- All of them post one event with the first three tokens of the file, or none posts an event. -/
def ReadersAgree (file : Option (List UInt8)) : Prop :=
  (∃ content x y z rest a b c, file = some content ∧ tokens content = x :: y :: z :: rest ∧
    parse x = some a ∧ parse y = some b ∧ parse z = some c ∧
    ∀ v : Variant, v.readEvents (.ofParse parse) info timestamp file =
      some [dataEvent info timestamp a b c]) ∨
  ∀ v : Variant, v.readEvents (.ofParse parse) info timestamp file = some []

/-- The file opens, and begins with three numbers. -/
def BeginsWithNumbers (file : Option (List UInt8)) : Prop :=
  ∃ content x y z rest, file = some content ∧ tokens content = x :: y :: z :: rest ∧
    (parse x).isSome ∧ (parse y).isSome ∧ (parse z).isSome

/-- An event is made and posted whatever the file holds, so the builds agree exactly on a file that
begins with three numbers. -/
theorem readers_agree_iff (file : Option (List UInt8)) :
    ReadersAgree parse info timestamp file ↔ BeginsWithNumbers parse file := by
  constructor
  · rintro (⟨content, x, y, z, rest, a, b, c, rfl, htokens, hx, hy, hz, -⟩ | hnone)
    · exact ⟨content, x, y, z, rest, rfl, htokens, by rw [hx]; rfl, by rw [hy]; rfl,
        by rw [hz]; rfl⟩
    · -- the first build posts an event for every file
      have hposts : ∃ e, Variant.v2X.readEvents (.ofParse parse) info timestamp file =
          some [e] := by
        cases file with
        | none => exact ⟨_, rfl⟩
        | some content => exact ⟨_, rfl⟩
      obtain ⟨e, he⟩ := hposts
      rw [hnone .v2X] at he
      exact absurd he nofun
  · rintro ⟨content, x, y, z, rest, rfl, htokens, hx, hy, hz⟩
    obtain ⟨a, ha⟩ := Option.isSome_iff_exists.mp hx
    obtain ⟨b, hb⟩ := Option.isSome_iff_exists.mp hy
    obtain ⟨c, hc⟩ := Option.isSome_iff_exists.mp hz
    exact Or.inl ⟨content, x, y, z, rest, a, b, c, rfl, htokens, ha, hb, hc,
      fun v => readEvents_numbers parse v htokens ha hb hc⟩

end OneParser

/-- A file that does not open: an event all the same, and no two of the payloads are the same. -/
theorem readers_disagree :
    ¬ ∀ (parse : List UInt8 → Option Int) (info : SensorInfo Int) (timestamp : Int)
      (file : Option (List UInt8)), ReadersAgree parse info timestamp file := by
  intro hall
  rcases hall (fun _ => none) ⟨1, 1, 1⟩ 0 none with ⟨content, -, -, -, -, -, -, -, hfile, -⟩ | hnone
  · exact absurd hfile nofun
  · exact absurd (hnone .v2X) nofun

end Smi240Hal.Sampling
