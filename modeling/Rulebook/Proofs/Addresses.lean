import Rulebook.Proofs.Printing
import Rulebook.Proofs.Storable
import Rulebook.Settings.Printer

/-!
# What an address tells of its parts

The address of a database is put together from a user, a password, a host, a number and the name of
a database, and nothing in them is escaped. Hosts are free of the marks between the parts and
numbers have no marks at all, but users, passwords and database names may hold any of them. So an
address may be read in more than one way.

There are two ways to misread it. A colon in a user may be taken for the one in front of the
password; then part of the user moves into the password. And an `@` in the name of the database may
be taken for the one in front of the host; then host, number and the beginning of that name move
into the password, or into the user if there is a colon among them. Addresses agree exactly when
their parts do or one is such a misreading of the other. Neither can happen to users without a
colon, as long as no password or no database name has an `@`.
-/

namespace Rulebook

/-- The parts that an address is put together from. -/
structure AddressParts where
  user : String
  password : String
  host : String
  portNumber : Int
  database : String
deriving DecidableEq

namespace AddressParts

/-- Who asks. -/
def credentials (parts : AddressParts) : String := parts.user ++ ":" ++ parts.password

/-- Where the database is. -/
def place (parts : AddressParts) : String :=
  parts.host ++ ":" ++ toString parts.portNumber ++ "/" ++ parts.database

/-- The address. -/
def text (parts : AddressParts) : String :=
  "postgresql+psycopg2://" ++ parts.user ++ ":" ++ parts.password ++ "@" ++ parts.host ++ ":" ++
    toString parts.portNumber ++ "/" ++ parts.database

/-- A host is there and has no mark that could end it, or end what is in front of it. -/
structure HostIsPlain (parts : AddressParts) : Prop where
  given : parts.host ≠ ""
  unmarked : ∀ c ∈ parts.host.toList, c ≠ '@' ∧ c ≠ ':' ∧ c ≠ '/'

/-- The user is the other one up to a colon in it, and what is behind the colon has moved into the
password. -/
def CutsUser (parts other : AddressParts) : Prop :=
  ∃ between, other.user = parts.user ++ ":" ++ between ∧
    parts.password = between ++ ":" ++ other.password

/-- The other credentials have an `@`, behind these credentials, and then this host, this number
and the beginning of the name of this database, which goes on with an `@` and the other place. -/
def RunsInto (parts other : AddressParts) : Prop :=
  ∃ beginning, parts.database = beginning ++ "@" ++ other.place ∧
    other.credentials =
      parts.credentials ++ "@" ++ ({ parts with database := beginning } : AddressParts).place

/-- Parts that put together the address of others and differ from them. -/
inductive Misreads (parts other : AddressParts) : Prop where
  | user (cut : parts.CutsUser other) (host : parts.host = other.host)
      (portNumber : parts.portNumber = other.portNumber)
      (database : parts.database = other.database)
  | place (runs : parts.RunsInto other)

end AddressParts

/-- Settings with the given parts and no address of their own. -/
structure DatabaseSettings.HasParts (settings : DatabaseSettings) (parts : AddressParts) :
    Prop where
  noAddress : settings.url.truthy = false
  user : settings.user.shown? = some parts.user
  password : settings.password.shown? = some parts.password
  host : settings.host.shown? = some parts.host
  portNumber : settings.portNumber = .int parts.portNumber
  database : settings.database.shown? = some parts.database

/-- A part is put into an address as it is shown. -/
theorem part_eq (value : Json) (shown : String) (given : value.shown? = some shown) :
    DatabaseSettings.composedAddress.part value = .ok shown := by
  rw [DatabaseSettings.composedAddress.part, given]

namespace DatabaseSettings.HasParts

variable {settings : DatabaseSettings} {parts : AddressParts}

/-- The address of settings is put together from their parts, if the number can be shown. -/
theorem address_of_short (given : settings.HasParts parts)
    (short : Decimal.isShort parts.portNumber = true) :
    settings.address = .ok (.str parts.text) := by
  have number : settings.portNumber.shown? = some (toString parts.portNumber) := by
    rw [given.portNumber]
    simp [Json.shown?, Json.nestedText?, short]
  rw [address, given.noAddress, if_neg Bool.false_ne_true, composedAddress, part_eq _ _ given.user,
    part_eq _ _ given.password, part_eq _ _ given.host, part_eq _ _ number,
    part_eq _ _ given.database]
  rfl

/-- A number that is too long to be shown leaves settings without an address. -/
theorem short_of_address (given : settings.HasParts parts) {address : Json}
    (found : settings.address = .ok address) : Decimal.isShort parts.portNumber = true := by
  refine (Bool.eq_false_or_eq_true _).resolve_right fun long => ?_
  have number : composedAddress.part settings.portNumber = .error .unconvertible := by
    rw [composedAddress.part, given.portNumber]
    simp [Json.shown?, Json.nestedText?, long]
  rw [DatabaseSettings.address, given.noAddress, if_neg Bool.false_ne_true, composedAddress,
    part_eq _ _ given.user, part_eq _ _ given.password, part_eq _ _ given.host, number] at found
  cases found

end DatabaseSettings.HasParts

section Marks

/-- The marks between the parts, as texts of one character. -/
theorem toList_marks :
    ":".toList = [':'] ∧ "@".toList = ['@'] ∧ "/".toList = ['/'] := ⟨rfl, rfl, rfl⟩

/-- A text with a mark in it, character by character. -/
theorem eq_marked_iff (mark : String) (c : Char) (single : mark.toList = [c])
    (whole front back : String) :
    whole = front ++ mark ++ back ↔ whole.toList = front.toList ++ c :: back.toList := by
  rw [← String.toList_inj, String.toList_append, String.toList_append, single, List.append_assoc,
    List.singleton_append]

/-- Two texts with a mark in them agree exactly when they do in front of it and behind it, or the
mark of one is found again further on in the other. -/
theorem marked_eq_iff (mark : String) (c : Char) (single : mark.toList = [c])
    (front back other rest : String) :
    front ++ mark ++ back = other ++ mark ++ rest ↔
      (front = other ∧ back = rest) ∨
      (∃ between, other = front ++ mark ++ between ∧ back = between ++ mark ++ rest) ∨
      (∃ between, front = other ++ mark ++ between ∧ rest = between ++ mark ++ back) := by
  have further (front back other rest : String) (between : List Char)
      (longer : other.toList = front.toList ++ between)
      (behind : c :: back.toList = between ++ c :: rest.toList) :
      (front = other ∧ back = rest) ∨
        ∃ between, other = front ++ mark ++ between ∧ back = between ++ mark ++ rest := by
    cases between with
    | nil =>
      rw [List.append_nil] at longer
      exact Or.inl ⟨String.toList_inj.mp longer.symm,
        String.toList_inj.mp (List.cons.inj behind).2⟩
    | cons first between =>
      rw [List.cons_append] at behind
      obtain ⟨rfl, backs⟩ := List.cons.inj behind
      refine Or.inr ⟨String.ofList between, ?_, ?_⟩
      · rw [eq_marked_iff mark c single, String.toList_ofList, longer]
      · rw [eq_marked_iff mark c single, String.toList_ofList, backs]
  constructor
  · intro same
    rw [eq_marked_iff mark c single, String.toList_append, String.toList_append, single,
      List.append_assoc, List.singleton_append] at same
    rcases List.append_eq_append_iff.mp same with ⟨between, longer, behind⟩ |
      ⟨between, longer, behind⟩
    · rcases further front back other rest between longer behind with equal | moved
      · exact Or.inl equal
      · exact Or.inr (Or.inl moved)
    · rcases further other rest front back between longer behind with ⟨fronts, backs⟩ | moved
      · exact Or.inl ⟨fronts.symm, backs.symm⟩
      · exact Or.inr (Or.inr moved)
  · rintro (⟨rfl, rfl⟩ | ⟨between, rfl, rfl⟩ | ⟨between, rfl, rfl⟩)
    · rfl
    · simp only [String.append_assoc]
    · simp only [String.append_assoc]

/-- A mark that is not in front of a text stands behind it. -/
theorem exists_behind (mark : Char) (front back between rest : List Char) (absent : mark ∉ front)
    (same : front ++ back = between ++ mark :: rest) :
    ∃ beginning, between = front ++ beginning ∧ back = beginning ++ mark :: rest := by
  rcases List.append_eq_append_iff.mp same with ⟨beginning, longer, behind⟩ |
    ⟨remaining, longer, behind⟩
  · exact ⟨beginning, longer, behind⟩
  · cases remaining with
    | nil =>
      rw [List.append_nil] at longer
      exact ⟨[], by rw [longer, List.append_nil], behind.symm⟩
    | cons first remaining =>
      obtain ⟨rfl, -⟩ := List.cons.inj behind
      rw [longer] at absent
      exact absurd (List.mem_append_right between List.mem_cons_self) absent

end Marks

namespace AddressParts

variable {parts other : AddressParts}

/-- What stands in a place in front of the name of the database. -/
def server (parts : AddressParts) : List Char :=
  parts.host.toList ++ ':' :: ((toString parts.portNumber).toList ++ ['/'])

/-- A place is the server with the name of the database behind it. -/
theorem toList_place (parts : AddressParts) :
    parts.place.toList = parts.server ++ parts.database.toList := by
  simp only [place, server, String.toList_append, toList_marks, List.append_assoc,
    List.cons_append, List.nil_append]

/-- Plain hosts and their numbers can be told from what begins with them. -/
theorem server_append_inj (plain : parts.HostIsPlain) (alsoPlain : other.HostIsPlain)
    (rest tail : List Char) (same : parts.server ++ rest = other.server ++ tail) :
    parts.host = other.host ∧ parts.portNumber = other.portNumber ∧ rest = tail := by
  have hostly (parts : AddressParts) (plain : parts.HostIsPlain) :
      ∀ c ∈ parts.host.toList, (c != ':') = true := by
    intro c member
    exact bne_iff_ne.mpr (plain.unmarked c member).2.1
  have colon (rest : List Char) : ∀ c ∈ (':' :: rest).head?, (c != ':') = false := by
    rintro c ⟨⟩
    rfl
  have slash (rest : List Char) : Json.Clear ('/' :: rest) := by
    rintro c ⟨⟩
    rfl
  simp only [server, List.append_assoc, List.cons_append, List.nil_append] at same
  obtain ⟨hosts, behind⟩ := Json.word_append_inj (· != ':') _ _ _ _ (hostly parts plain)
    (hostly other alsoPlain) (colon _) (colon _) same
  obtain ⟨numbers, rests⟩ :=
    Json.int_append_inj _ _ _ _ (slash _) (slash _) (List.cons.inj behind).2
  exact ⟨String.toList_inj.mp hosts, numbers, (List.cons.inj rests).2⟩

/-- Places of plain hosts agree exactly when all of their parts do. -/
theorem place_eq_iff (plain : parts.HostIsPlain) (alsoPlain : other.HostIsPlain) :
    parts.place = other.place ↔ parts.host = other.host ∧ parts.portNumber = other.portNumber ∧
      parts.database = other.database := by
  constructor
  · intro same
    have letters := congrArg String.toList same
    rw [toList_place, toList_place] at letters
    obtain ⟨host, portNumber, database⟩ := server_append_inj plain alsoPlain _ _ letters
    exact ⟨host, portNumber, String.toList_inj.mp database⟩
  · rintro ⟨host, portNumber, database⟩
    rw [place, host, portNumber, database]
    rfl

/-- There is no `@` in a plain host or a number. -/
theorem notMem_server (plain : parts.HostIsPlain) : '@' ∉ parts.server := by
  intro member
  rcases List.mem_append.mp member with inHost | behind
  · exact (plain.unmarked '@' inHost).1 rfl
  · rcases List.mem_cons.mp behind with colon | behind
    · exact absurd colon (by decide)
    · rcases List.mem_append.mp behind with inNumber | slash
      · exact absurd (Json.isMark_of_mem_toString _ '@' inNumber) (by decide)
      · exact absurd slash (by decide)

/-- An `@` in a place stands in the name of the database. -/
theorem place_eq_marked_iff (plain : parts.HostIsPlain) (between rest : String) :
    parts.place = between ++ "@" ++ rest ↔
      ∃ beginning, parts.database = beginning ++ "@" ++ rest ∧
        between = ({ parts with database := beginning } : AddressParts).place := by
  have split (beginning : String) :
      ({ parts with database := beginning } : AddressParts).place.toList =
        parts.server ++ beginning.toList := toList_place _
  simp only [eq_marked_iff "@" '@' rfl, toList_place parts]
  constructor
  · intro same
    obtain ⟨beginning, front, database⟩ := exists_behind '@' _ _ _ _ (notMem_server plain) same
    refine ⟨String.ofList beginning, ?_, String.toList_inj.mp ?_⟩
    · rw [String.toList_ofList, database]
    · rw [split, String.toList_ofList, front]
  · rintro ⟨beginning, database, rfl⟩
    rw [split, database, List.append_assoc]

/-- Credentials agree exactly when user and password do, or one user is the other one cut. -/
theorem credentials_eq_iff : parts.credentials = other.credentials ↔
    (parts.user = other.user ∧ parts.password = other.password) ∨
      parts.CutsUser other ∨ other.CutsUser parts :=
  marked_eq_iff ":" ':' rfl _ _ _ _

/-- Addresses agree exactly when their credentials and places do with an `@` between them. -/
theorem text_eq_iff : parts.text = other.text ↔
    parts.credentials ++ "@" ++ parts.place = other.credentials ++ "@" ++ other.place := by
  have whole (parts : AddressParts) : parts.text.toList =
      "postgresql+psycopg2://".toList ++ (parts.credentials ++ "@" ++ parts.place).toList := by
    unfold text credentials place
    -- The text in front is long, and nothing needs to be known of it.
    generalize "postgresql+psycopg2://" = scheme
    simp only [String.toList_append, List.append_assoc]
  rw [← String.toList_inj, whole, whole, List.append_cancel_left_eq, String.toList_inj]

/-- One address runs into another exactly when its place ends with an `@` and the other place, and
the other credentials have all of it that is in front of this `@`. -/
theorem runsInto_iff (plain : parts.HostIsPlain) : parts.RunsInto other ↔
    ∃ between, other.credentials = parts.credentials ++ "@" ++ between ∧
      parts.place = between ++ "@" ++ other.place := by
  simp only [place_eq_marked_iff plain]
  constructor
  · rintro ⟨beginning, database, credentials⟩
    exact ⟨_, credentials, beginning, database, rfl⟩
  · rintro ⟨_, credentials, beginning, database, rfl⟩
    exact ⟨beginning, database, credentials⟩

/-- Texts of addresses agree exactly when the parts do, or one is a misreading of the other. -/
theorem text_eq_text_iff (plain : parts.HostIsPlain) (alsoPlain : other.HostIsPlain) :
    parts.text = other.text ↔ parts = other ∨ parts.Misreads other ∨ other.Misreads parts := by
  have equal : parts = other ↔ (parts.user = other.user ∧ parts.password = other.password) ∧
      parts.host = other.host ∧ parts.portNumber = other.portNumber ∧
        parts.database = other.database := by
    obtain ⟨user, password, host, portNumber, database⟩ := parts
    obtain ⟨otherUser, otherPassword, otherHost, otherNumber, otherDatabase⟩ := other
    simp only [mk.injEq, and_assoc]
  rw [text_eq_iff, marked_eq_iff "@" '@' rfl, credentials_eq_iff, place_eq_iff plain alsoPlain,
    ← runsInto_iff plain, ← runsInto_iff alsoPlain, equal]
  constructor
  · rintro (⟨same | cut | cut, host, portNumber, database⟩ | runs | runs)
    · exact Or.inl ⟨same, host, portNumber, database⟩
    · exact Or.inr (Or.inl (.user cut host portNumber database))
    · exact Or.inr (Or.inr (.user cut host.symm portNumber.symm database.symm))
    · exact Or.inr (Or.inl (.place runs))
    · exact Or.inr (Or.inr (.place runs))
  · rintro (⟨same, place⟩ | (⟨cut, host, portNumber, database⟩ | runs) |
      (⟨cut, host, portNumber, database⟩ | runs))
    · exact Or.inl ⟨Or.inl same, place⟩
    · exact Or.inl ⟨Or.inr (Or.inl cut), host, portNumber, database⟩
    · exact Or.inr (Or.inl runs)
    · exact Or.inl ⟨Or.inr (Or.inr cut), host.symm, portNumber.symm, database.symm⟩
    · exact Or.inr (Or.inr runs)

/-- Misreading needs a colon in a user, or else an `@` both in the name of a database and in the
password that it is read into. -/
theorem Misreads.marks (misreads : parts.Misreads other) :
    ':' ∈ parts.user.toList ∨ ':' ∈ other.user.toList ∨
      ('@' ∈ parts.database.toList ∧ '@' ∈ other.password.toList) := by
  have inside (mark : String) (c : Char) (single : mark.toList = [c]) (whole front back : String)
      (marked : whole = front ++ mark ++ back) : c ∈ whole.toList := by
    rw [(eq_marked_iff mark c single whole front back).mp marked]
    exact List.mem_append_right _ List.mem_cons_self
  cases misreads with
  | user cut _ _ _ =>
    obtain ⟨between, user, -⟩ := cut
    exact Or.inr (Or.inl (inside ":" ':' rfl _ _ _ user))
  | place runs =>
    obtain ⟨beginning, database, credentials⟩ := runs
    have split : other.user ++ ":" ++ other.password = parts.user ++ ":" ++
        (parts.password ++ "@" ++ ({ parts with database := beginning } : AddressParts).place) := by
      refine credentials.trans ?_
      simp only [AddressParts.credentials, String.append_assoc]
    rcases (marked_eq_iff ":" ':' rfl _ _ _ _).mp split with ⟨-, password⟩ | ⟨between, user, -⟩ |
      ⟨between, user, -⟩
    · exact Or.inr (Or.inr ⟨inside "@" '@' rfl _ _ _ database, inside "@" '@' rfl _ _ _ password⟩)
    · exact Or.inl (inside ":" ':' rfl _ _ _ user)
    · exact Or.inr (Or.inl (inside ":" ':' rfl _ _ _ user))

/-- Without these marks there is no misreading. -/
theorem not_misreads_of_unmarked (noColon : ':' ∉ parts.user.toList)
    (alsoNoColon : ':' ∉ other.user.toList)
    (noAt : '@' ∉ other.password.toList ∨ '@' ∉ parts.database.toList) :
    ¬ parts.Misreads other := by
  intro misreads
  rcases misreads.marks with colon | colon | ⟨inDatabase, inPassword⟩
  · exact noColon colon
  · exact alsoNoColon colon
  · rcases noAt with free | free
    · exact free inPassword
    · exact free inDatabase

end AddressParts

namespace DatabaseSettings

/-- Two settings come to the same address. -/
def ShareAddress (settings others : DatabaseSettings) : Prop :=
  ∃ address, settings.address = .ok address ∧ others.address = .ok address

/-- Addresses tell their parts up to misreadings.

Two settings without an address of their own whose hosts have none of the marks and whose numbers
are integers come to the same address exactly when the numbers can be shown and the parts agree, or
one address is a misreading of the other. It is none, and so all five parts agree, when the users
have no colon and either no password or no name of a database has an `@`. -/
theorem shareAddress_iff (settings others : DatabaseSettings) (parts other : AddressParts)
    (given : settings.HasParts parts) (alsoGiven : others.HasParts other)
    (plain : parts.HostIsPlain) (alsoPlain : other.HostIsPlain) :
    (settings.ShareAddress others ↔
      (Decimal.isShort parts.portNumber = true ∧ Decimal.isShort other.portNumber = true) ∧
        (parts = other ∨ parts.Misreads other ∨ other.Misreads parts)) ∧
      (settings.ShareAddress others → ':' ∉ parts.user.toList → ':' ∉ other.user.toList →
        ('@' ∉ parts.password.toList ∧ '@' ∉ other.password.toList ∨
          '@' ∉ parts.database.toList ∧ '@' ∉ other.database.toList) → parts = other) := by
  have exactly : settings.ShareAddress others ↔
      (Decimal.isShort parts.portNumber = true ∧ Decimal.isShort other.portNumber = true) ∧
        (parts = other ∨ parts.Misreads other ∨ other.Misreads parts) := by
    rw [← AddressParts.text_eq_text_iff plain alsoPlain]
    constructor
    · rintro ⟨address, first, second⟩
      have short := given.short_of_address first
      have alsoShort := alsoGiven.short_of_address second
      rw [given.address_of_short short] at first
      rw [alsoGiven.address_of_short alsoShort, ← first] at second
      exact ⟨⟨short, alsoShort⟩, (Json.str.inj (Except.ok.inj second)).symm⟩
    · rintro ⟨⟨short, alsoShort⟩, texts⟩
      refine ⟨_, given.address_of_short short, ?_⟩
      rw [alsoGiven.address_of_short alsoShort, texts]
  refine ⟨exactly, ?_⟩
  intro shared noColon alsoNoColon quiet
  obtain ⟨-, same | misreads | misreads⟩ := exactly.mp shared
  · exact same
  · apply absurd misreads
    apply AddressParts.not_misreads_of_unmarked noColon alsoNoColon
    exact quiet.imp And.right And.left
  · apply absurd misreads
    apply AddressParts.not_misreads_of_unmarked alsoNoColon noColon
    exact quiet.imp And.left And.right

/-- A database whose name looks like the end of an address. -/
def outerParts : AddressParts := ⟨"a", "b:c", "h", 1, "x@k:2/y"⟩

/-- A user with a colon, and a password that looks like the beginning of a place. -/
def innerParts : AddressParts := ⟨"a:b", "c@h:1/x", "k", 2, "y"⟩

/-- Settings with these parts. -/
def ofParts (parts : AddressParts) : DatabaseSettings where
  host := .str parts.host
  portNumber := .int parts.portNumber
  database := .str parts.database
  user := .str parts.user
  password := .str parts.password

/-- They have these parts. -/
theorem hasParts_ofParts (parts : AddressParts) : (ofParts parts).HasParts parts :=
  ⟨rfl, rfl, rfl, rfl, rfl, rfl⟩

/-- A host of one letter is plain. -/
theorem hostIsPlain_of_letter (parts : AddressParts) (c : Char) (single : parts.host.toList = [c])
    (letter : c ≠ '@' ∧ c ≠ ':' ∧ c ≠ '/') : parts.HostIsPlain where
  given := by
    intro missing
    rw [missing] at single
    cases single
  unmarked := by
    intro other member
    rw [single, List.mem_singleton] at member
    exact member ▸ letter

/-- Both hosts are plain. -/
theorem hosts_plain : outerParts.HostIsPlain ∧ innerParts.HostIsPlain :=
  ⟨hostIsPlain_of_letter _ 'h' rfl (by decide), hostIsPlain_of_letter _ 'k' rfl (by decide)⟩

/-- The outer address runs into the inner one, and it is not shared by a database of another name,
as these passwords have no `@`. -/
theorem outer_runs_into_inner :
    outerParts.HostIsPlain ∧ innerParts.HostIsPlain ∧
      (ofParts outerParts).ShareAddress (ofParts innerParts) ∧
      ¬ (ofParts { outerParts with database := "x" }).ShareAddress (ofParts outerParts) := by
  have short (parts : AddressParts) (small : parts.portNumber.natAbs < Decimal.wordLimit) :
      Decimal.isShort parts.portNumber = true := isShort_of_small _ small
  have runs : outerParts.RunsInto innerParts := ⟨"x", by decide, by decide⟩
  have outer := hosts_plain.1
  have inner := hosts_plain.2
  have law := shareAddress_iff _ _ _ _ (hasParts_ofParts outerParts) (hasParts_ofParts innerParts)
    outer inner
  have apart := shareAddress_iff _ _ _ _ (hasParts_ofParts { outerParts with database := "x" })
    (hasParts_ofParts outerParts) (hostIsPlain_of_letter _ 'h' rfl (by decide)) outer
  refine ⟨outer, inner, law.1.mpr ⟨⟨short _ (by decide), short _ (by decide)⟩,
    Or.inr (Or.inl (.place runs))⟩, ?_⟩
  intro shared
  have same := apart.2 shared (by decide) (by decide) (Or.inl (by decide))
  exact absurd same (by decide)

/-- Addresses do not tell their parts: here two agree although all five parts differ. -/
theorem nested_address_is_ambiguous :
    ¬ ∀ (settings others : DatabaseSettings) (parts other : AddressParts),
      settings.HasParts parts → others.HasParts other → parts.HostIsPlain → other.HostIsPlain →
      settings.ShareAddress others →
      parts.user = other.user ∧ parts.password = other.password ∧ parts.host = other.host ∧
        parts.portNumber = other.portNumber ∧ parts.database = other.database := by
  intro law
  have shared : (ofParts outerParts).ShareAddress (ofParts innerParts) := by
    refine ⟨_, (hasParts_ofParts outerParts).address_of_short (isShort_of_small _ (by decide)), ?_⟩
    have texts : innerParts.text = outerParts.text := by decide
    rw [(hasParts_ofParts innerParts).address_of_short (isShort_of_small _ (by decide)), texts]
  obtain ⟨user, -⟩ := law _ _ _ _ (hasParts_ofParts outerParts) (hasParts_ofParts innerParts)
    hosts_plain.1 hosts_plain.2 shared
  exact absurd user (by decide)

end DatabaseSettings

end Rulebook
