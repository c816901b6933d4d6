import Evolution.Proofs.Address.Url
import Evolution.Settings

/-! What becomes of the parts that the address of a database is put together of. User, password and
name are taken over as they are written there, and not as what they stand for. -/
namespace Evolution

open Address Address.Url

/-- The address of a database. -/
def databaseUrl (user password host : String) (port : Nat) (database : String) : String :=
  s!"postgresql://{user}:{password}@{host}:{port}/{database}"

/-- Some name, with no character that has a meaning in addresses and no control character. -/
structure IsHostName (host : String) : Prop where
  nonempty : host ≠ ""
  plain : ∀ c ∈ host.toList, isForbiddenInHost c = false ∧ isControl c = false

/-- The name of a database in a path, without the dots that are segments and without the slashes in
front. -/
def nameInPath (path : String) : String :=
  let kept := "/".intercalate (resolveDots [] (Text.splitAll '/' path))
  String.ofList (kept.toList.dropWhile (· == '/'))

section databaseUrl

variable {u p d user password database host : String} {port : Nat}

theorem toList_databaseUrl (u p host d : String) (port : Nat) :
    (databaseUrl u p host port d).toList = "postgresql".toList ++ ':' :: '/' :: '/' ::
      (u.toList ++ ':' :: p.toList ++ '@' :: (host.toList ++ ':' :: Nat.toDigits 10 port) ++
        '/' :: d.toList) := by
  have hurl : databaseUrl u p host port d = "postgresql" ++ "://" ++ u ++ ":" ++ p ++ "@" ++ host ++
      ":" ++ port.repr ++ "/" ++ d := rfl
  have hscheme : "://".toList = [':', '/', '/'] := rfl
  have hcolon : ":".toList = [':'] := rfl
  have hat : "@".toList = ['@'] := rfl
  have hslash : "/".toList = ['/'] := rfl
  simp only [hurl, String.toList_append, hscheme, hcolon, hat, hslash, Nat.toList_repr,
    List.append_assoc, List.cons_append, List.nil_append]

theorem visible_of_not_isControl {c : Char} (h : isControl c = false) (hb : c ≠ ' ') :
    0x20 < c.toNat := by
  have hn : c.toNat ≠ 0x20 := fun hn => hb (Char.toNat_inj.mp hn)
  simp only [isControl, Bool.or_eq_false_iff, decide_eq_false_iff_not] at h
  omega

/-- What need not be encoded in a path is neither a control character nor a blank. -/
theorem visible_of_inPathSet {c : Char} (h : inPathSet c = false) : 0x20 < c.toNat := by
  refine visible_of_not_isControl (Bool.or_eq_false_iff.mp h).1 ?_
  rintro rfl
  exact absurd h (by decide)

theorem visible_of_inUserSet {c : Char} (h : inUserSet c = false) : 0x20 < c.toNat :=
  visible_of_inPathSet (Bool.or_eq_false_iff.mp h).1

theorem IsHostName.visible (h : IsHostName host) : ∀ c ∈ host.toList, 0x20 < c.toNat := by
  intro c hc
  obtain ⟨hplain, hcontrol⟩ := h.plain c hc
  refine visible_of_not_isControl hcontrol ?_
  rintro rfl
  exact absurd hplain (by decide)

theorem IsHostName.not_mem (h : IsHostName host) {c : Char} (hc : isForbiddenInHost c = true) :
    c ∉ host.toList := by
  intro hm
  rw [(h.plain c hm).1] at hc
  cases hc

theorem visible_of_mem_toDigits {c : Char} (h : c ∈ Nat.toDigits 10 port) : 0x20 < c.toNat := by
  have hdigit := Text.isDecimalDigit_of_mem_toDigits h
  simp only [Text.isDecimalDigit, Bool.and_eq_true, decide_eq_true_iff, Char.le_def,
    UInt32.le_iff_toNat_le] at hdigit
  have hlow : 48 ≤ c.toNat := hdigit.1
  omega

theorem visible_databaseUrl (hu : Writes inUserSet u user) (hp : Writes inUserSet p password)
    (hd : Writes inPathSet d database) (hh : IsHostName host) :
    ∀ c ∈ (databaseUrl u p host port d).toList, 0x20 < c.toNat := by
  have hscheme : ∀ c ∈ "postgresql".toList, 0x20 < c.toNat := by
    have hall : "postgresql".toList.all (fun c => decide (0x20 < c.toNat)) = true := by decide
    simpa only [List.all_eq_true, decide_eq_true_iff] using hall
  have hwritten {t v : String} (h : Writes inUserSet t v) : ∀ c ∈ t.toList, 0x20 < c.toNat :=
    fun c hc => visible_of_inUserSet (h.plain c hc).2
  rw [toList_databaseUrl]
  simp only [List.forall_mem_append, List.forall_mem_cons]
  refine ⟨hscheme, by decide, by decide, by decide, ⟨⟨hwritten hu, by decide, hwritten hp⟩,
    by decide, hh.visible, by decide, fun c hc => visible_of_mem_toDigits hc⟩, by decide, ?_⟩
  exact fun c hc => visible_of_inPathSet (hd.plain c hc).2

theorem ofText?_databaseUrl (hu : Writes inUserSet u user) (hp : Writes inUserSet p password)
    (hd : Writes inPathSet d database) (hh : IsHostName host) (hport : port ≤ 65535) :
    Url.ofText? (databaseUrl u p host port d) = some
      { scheme := "postgresql"
        user := u
        password := p
        host := some (encode isControl host.toList)
        port := some port
        path := "/" ++ "/".intercalate (resolveDots [] (Text.splitAll '/' d)) } := by
  have hopaque : opaqueHost? host.toList = some (encode isControl host.toList) := by
    have hopen : host.toList.head? ≠ some '[' := fun hc =>
      hh.not_mem (by decide) (List.mem_of_mem_head? hc)
    have hany : host.toList.any isForbiddenInHost = false := by
      rw [List.any_eq_false]
      intro c hc
      rw [(hh.plain c hc).1]
      decide
    rw [opaqueHost?, if_neg (by simpa using hopen), hany]
    rfl
  have hend : ∀ c ∈ u.toList ++ ':' :: p.toList ++ '@' ::
      (host.toList ++ ':' :: Nat.toDigits 10 port), endsAuthority false c = false := by
    have hwritten {t v : String} (h : Writes inUserSet t v) :
        ∀ c ∈ t.toList, endsAuthority false c = false := fun c hc =>
      endsAuthority_eq_false inUserSet (h.plain c hc).2 (by decide) (by decide) (by decide)
    have hdigit {c : Char} (hc : c ∈ Nat.toDigits 10 port) : (!Text.isDecimalDigit c) = false := by
      rw [Text.isDecimalDigit_of_mem_toDigits hc]
      rfl
    simp only [List.forall_mem_append, List.forall_mem_cons]
    refine ⟨⟨hwritten hu, by decide, hwritten hp⟩, by decide, ?_, by decide, ?_⟩
    · intro c hc
      exact endsAuthority_eq_false isForbiddenInHost (hh.plain c hc).1 (by decide) (by decide)
        (by decide)
    · intro c hc
      exact endsAuthority_eq_false (!Text.isDecimalDigit ·) (hdigit hc) (by decide) (by decide)
        (by decide)
  have hauthority := withAuthority?_append { scheme := "postgresql" } u.toList p.toList host.toList
    d.toList hend (hu.not_mem (by decide)) (hh.not_mem (by decide)) (hh.not_mem (by decide))
    (hh.not_mem (by decide)) hopaque (encode_ne_empty isControl hh.nonempty) hport
  rw [hu.encode_eq, hp.encode_eq, withPath_of_written hd] at hauthority
  have hscheme : isWebScheme "postgresql" = false := by decide
  rw [Url.ofText?, cleaned_eq (visible_databaseUrl hu hp hd hh), toList_databaseUrl,
    scheme?_postgresql]
  simp only [bind, Option.bind, hscheme]
  exact hauthority

end databaseUrl

namespace DatabaseSettings

/-- The settings for a database with its parts as they are written. -/
def asWritten (u p host : String) (port : Nat) (d : String) (n : Nat) : DatabaseSettings where
  host := encode isControl host.toList
  port := port
  user := u
  password := p
  database := nameInPath d
  maxConnections := n
  requireTls := Text.endsWith (encode isControl host.toList) "neon.tech"

variable {u p d user password database host : String} {port : Nat}

theorem ofUrl_databaseUrl (hu : Writes inUserSet u user) (hp : Writes inUserSet p password)
    (hd : Writes inPathSet d database) (hh : IsHostName host) (hport : port ≤ 65535) (n : Nat) :
    ofUrl (databaseUrl u p host port d) n =
      if nameInPath d = "" then .error .missingDatabase
      else .ok (asWritten u p host port d n) := by
  have hslash (path : String) :
      ("/" ++ path).toList.dropWhile (· == '/') = path.toList.dropWhile (· == '/') := by
    have hhead : "/".toList = ['/'] := rfl
    rw [String.toList_append, hhead]
    exact List.dropWhile_cons_of_pos (by decide)
  have htls {url : Url} (hq : url.query = none) (host : String) :
      needsTls url host = Text.endsWith host "neon.tech" := by
    rw [needsTls, hq]
    rfl
  unfold ofUrl
  simp only [ofText?_databaseUrl hu hp hd hh hport, hslash]
  rw [if_neg (by decide), ← nameInPath, htls rfl]
  by_cases hname : nameInPath d = ""
  · rw [if_pos hname, if_pos (String.isEmpty_iff.mpr hname)]
    rfl
  · rw [if_neg hname, if_neg (mt String.isEmpty_iff.mp hname)]
    rfl

/-- A name without dots for segments and without a slash in front is all there is in its path. -/
theorem nameInPath_of_dotless (hs : d.toList.head? ≠ some '/')
    (hd : ∀ segment ∈ Text.splitAll '/' d,
      isDoubleDot segment = false ∧ isSingleDot segment = false) : nameInPath d = d := by
  have hdrop : d.toList.dropWhile (· == '/') = d.toList := by
    cases hc : d.toList with
    | nil => rfl
    | cons c cs =>
      rw [hc] at hs
      apply List.dropWhile_cons_of_neg
      simpa using hs
  rw [nameInPath, resolveDots_of_dotless hd, List.reverse_nil, List.nil_append,
    Text.intercalate_splitAll, hdrop, String.ofList_toList]

/-- User, password and name of a database are taken out of its address as they are written there. So
they are what was meant exactly where nothing is encoded. Of the name only segments of dots are left
out, with those that they lead back over; where that is all of it, the address is refused. -/
theorem ofUrl_stays_encoded (hu : Writes inUserSet u user) (hp : Writes inUserSet p password)
    (hd : Writes inPathSet d database) (hh : IsHostName host) (hport : port ≤ 65535) (n : Nat) :
    (ofUrl (databaseUrl u p host port d) n =
      if nameInPath d = "" then .error .missingDatabase
      else .ok (asWritten u p host port d n)) ∧
      (u = user ↔ '%' ∉ u.toList) ∧ (p = password ↔ '%' ∉ p.toList) ∧
      (d = database ↔ '%' ∉ d.toList) ∧
      (d.toList.head? ≠ some '/' →
        (∀ segment ∈ Text.splitAll '/' d,
          isDoubleDot segment = false ∧ isSingleDot segment = false) → nameInPath d = d) := by
  refine ⟨ofUrl_databaseUrl hu hp hd hh hport n, hu.eq_iff, hp.eq_iff, hd.eq_iff, ?_⟩
  intro hs hdots
  exact nameInPath_of_dotless hs hdots

theorem isHostName_localhost : IsHostName "localhost" := by
  have hall : "localhost".toList.all (fun c => !isForbiddenInHost c && !isControl c) = true := by
    decide
  refine ⟨by decide, ?_⟩
  simpa only [List.all_eq_true, Bool.and_eq_true, Bool.not_eq_true'] using hall

theorem writes_user (s : String) : Writes inUserSet (written inUserSet s) s :=
  writes_written (by decide) (by decide) s

theorem writes_name (s : String) : Writes inPathSet (written inPathSet s) s :=
  writes_written (by decide) (by decide) s

theorem ofUrl_stays_encoded_atSign :
    Writes inUserSet "app" "app" ∧ Writes inUserSet "p%40ss" "p@ss" ∧
    Writes inPathSet "engine" "engine" ∧ IsHostName "localhost" ∧ 5432 ≤ 65535 ∧
    ofUrl (databaseUrl "app" "p%40ss" "localhost" 5432 "engine") 10 = .ok
      { host := "localhost"
        port := 5432
        user := "app"
        password := "p%40ss"
        database := "engine"
        maxConnections := 10
        requireTls := false } := by
  have happ : written inUserSet "app" = "app" := by decide +kernel
  have hpass : written inUserSet "p@ss" = "p%40ss" := by decide +kernel
  have hengine : written inPathSet "engine" = "engine" := by decide +kernel
  have hu := writes_user "app"
  have hp := writes_user "p@ss"
  have hd := writes_name "engine"
  rw [happ] at hu
  rw [hpass] at hp
  rw [hengine] at hd
  obtain ⟨hurl, -, -, -, hname⟩ :=
    ofUrl_stays_encoded hu hp hd isHostName_localhost (show 5432 ≤ 65535 by decide) 10
  have hname : nameInPath "engine" = "engine" := hname (by decide) (by decide +kernel)
  rw [hname, if_neg (by decide), asWritten, hname] at hurl
  refine ⟨hu, hp, hd, isHostName_localhost, by decide, hurl.trans ?_⟩
  decide +kernel

/-- The password that is used to log in is not the one that was meant. -/
theorem password_not_decoded :
    ¬ ∀ (user password database host : String) (port n : Nat), user ≠ "" → password ≠ "" →
      database ≠ "" → database.toList.head? ≠ some '/' → IsHostName host → port ≤ 65535 →
      ∃ settings, ofUrl (databaseUrl (written inUserSet user) (written inUserSet password) host port
          (written inPathSet database)) n = .ok settings ∧
        settings.user = user ∧ settings.password = password ∧ settings.database = database := by
  intro h
  obtain ⟨settings, hs, -, hpassword, -⟩ := h "app" "p@ss" "engine" "localhost" 5432 10 (by decide)
    (by decide) (by decide) (by decide) isHostName_localhost (by decide)
  rw [ofUrl_databaseUrl (writes_user _) (writes_user _) (writes_name _) isHostName_localhost
    (by decide)] at hs
  split at hs
  · cases hs
  · cases hs
    revert hpassword
    decide +kernel

end DatabaseSettings
end Evolution
