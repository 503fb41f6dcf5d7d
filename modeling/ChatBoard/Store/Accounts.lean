import ChatBoard.Store.Basic

/-!
# Accounts and their pictures

Accounts are made once per name and afterwards change only their display names and avatars. An
avatar is a stored image; storing one that is known by name changes nothing. Asking for a row that
cannot be read fails.
-/

namespace ChatBoard.Store

/-- Makes an account and gives its id, or gives none if the name is taken. -/
def createUser (now name salt digest : String) (s : Store) :
    Except StoreFault (Option Int × Store) :=
  match s.users with
  | none => .error (.missing .users)
  | some t =>
    match t.append (.sound ⟨name, salt, digest, name, DefaultAvatar.name, now⟩) with
    | .ok (id, t) => .ok (some id, { s with users := some t })
    | .error .taken => .ok (none, s)
    | .error .full => .error (.refused .full)

/-- An entry that a table holds, if it holds one and it can be read. -/
def readEntry {α : Type} (table : TableName) :
    Option (Entry (Stored α)) → Except StoreFault (Option (Entry α))
  | none => .ok none
  | some e =>
    match e.read? with
    | some e => .ok (some e)
    | none => .error (.unreadable table)

/-- The account with an id. -/
def userById (id : Int) (s : Store) : Except StoreFault (Option (Entry User)) :=
  match s.users with
  | none => .error (.missing .users)
  | some t => readEntry .users ((t.get? id).map (⟨id, ·⟩))

/-- The account with a name. -/
def userByName (name : String) (s : Store) : Except StoreFault (Option (Entry User)) :=
  match s.users with
  | none => .error (.missing .users)
  | some t => readEntry .users (t.labelled? [.text name])

/-- Changes the account with an id, if there is one; its name stays. -/
def reviseUser (id : Int) (change : Stored User → Stored User)
    (same : ∀ u, User.label (change u) = User.label u) (s : Store) : Except StoreFault Store :=
  match s.users with
  | none => .error (.missing .users)
  | some t =>
    .ok { s with
      users := some (t.revise (fun i u => if i = id then change u else u) fun i u => by
        split
        · exact congrArg some (same u)
        · rfl) }

/-- Gives an account a display name. -/
def setDisplayName (id : Int) (displayName : String) (s : Store) : Except StoreFault Store :=
  s.reviseUser id (User.withDisplayName displayName) (User.label_withDisplayName displayName)

/-- Points an account's avatar at an image. -/
def pointAvatar (id : Int) (image : String) (s : Store) : Except StoreFault Store :=
  s.reviseUser id (User.withAvatar image) (User.label_withAvatar image)

/-- Stores an image, unless one of this name is stored already. -/
def putImage (name : String) (data : Octets) (s : Store) : Except StoreFault Store :=
  match s.images with
  | none => .error (.missing .images)
  | some t =>
    match t.appendNew (.sound ⟨name, data⟩) with
    | .ok t => .ok { s with images := some t }
    | .error cause => .error (.refused cause)

/-- Stores an image and points an account's avatar at it. -/
def setAvatar (id : Int) (image : String) (data : Octets) (s : Store) :
    Except StoreFault Unit × Store :=
  inTurn [putImage image data, pointAvatar id image] s

/-- The image with a name. -/
def image (name : String) (s : Store) : Except StoreFault (Option (Entry Image)) :=
  match s.images with
  | none => .error (.missing .images)
  | some t => readEntry .images (t.labelled? [.text name])

/-- All entries, if all of them can be read. -/
def readAll {α : Type} (table : TableName) (es : List (Entry (Stored α))) :
    Except StoreFault (List (Entry α)) :=
  match es.mapM Entry.read? with
  | some es => .ok es
  | none => .error (.unreadable table)

/-- All images by id. -/
def allImages (s : Store) : Except StoreFault (List (Entry Image)) :=
  match s.images with
  | none => .error (.missing .images)
  | some t => readAll .images t.entries.reverse

end ChatBoard.Store
