import MetadataBag.Registry

/-!
The properties that are known from the start, under the names by which programs refer to them.
The composites keep the older names of a property in step with the standard one.
-/

namespace MetadataBag.Catalog

def dc : String := "http://purl.org/dc/elements/1.1/"
def dcterms : String := "http://purl.org/dc/terms/"
def xmp : String := "http://ns.adobe.com/xap/1.0/"
def xmpTPg : String := "http://ns.adobe.com/xap/1.0/t/pg/"
def tiff : String := "http://ns.adobe.com/tiff/1.0/"
def opendocument : String := "urn:oasis:names:tc:opendocument:xmlns:meta:1.0"

/-- The namespaces whose prefixes need no declaration in a catalog. -/
def namespaces : List (String × String) :=
  [ ("dc", dc), ("dcterms", dcterms), ("xmp", xmp), ("xmpTPg", xmpTPg), ("tiff", tiff),
    ("meta", opendocument) ]

variable {ν : Type} [Space ν]

def text (key uri : String) : Property ν := .ofKey key (some (Space.text uri)) .text false false
def texts (key uri : String) : Property ν := .ofKey key (some (Space.text uri)) .text false true
def date (key uri : String) : Property ν := .ofKey key (some (Space.text uri)) .date false false
def integer (key uri : String) : Property ν :=
  .ofKey key (some (Space.text uri)) .integer false false
def rational (key uri : String) : Property ν :=
  .ofKey key (some (Space.text uri)) .rational true false

def builtIn : List (String × Property ν) :=
  [ ("TITLE", text "dc:title" dc),
    ("DESCRIPTION", text "dc:description" dc),
    ("LANGUAGE", text "dc:language" dc),
    ("PUBLISHER", text "dc:publisher" dc),
    ("IDENTIFIER", text "dc:identifier" dc),
    ("FORMAT", text "dc:format" dc),
    ("RIGHTS", text "dc:rights" dc),
    ("CONTRIBUTOR", texts "dc:contributor" dc),
    ("CREATOR", .composite (texts "dc:creator" dc) [texts "meta:author" opendocument]),
    ("KEYWORDS", .composite (texts "dc:subject" dc) [texts "meta:keyword" opendocument]),
    ("CREATED", .composite (date "dcterms:created" dcterms)
      [date "meta:creation-date" opendocument, date "xmp:CreateDate" xmp]),
    ("MODIFIED", .composite (date "dcterms:modified" dcterms)
      [date "meta:save-date" opendocument, date "xmp:ModifyDate" xmp]),
    ("PAGE_COUNT", integer "xmpTPg:NPages" xmpTPg),
    ("IMAGE_WIDTH", integer "tiff:ImageWidth" tiff),
    ("IMAGE_LENGTH", integer "tiff:ImageLength" tiff),
    ("RESOLUTION_HORIZONTAL", rational "tiff:XResolution" tiff),
    ("RESOLUTION_VERTICAL", rational "tiff:YResolution" tiff) ]

def builtIn? (name : String) : Option (Property ν) :=
  (builtIn.find? fun e => e.1 = name).map (·.2)

/-- The registry of the simple properties among them and of the members of the others. -/
def defaultRegistry : Registry ν :=
  (builtIn.flatMap fun e => e.2.members).foldl (fun r p => (r.register p).toOption.getD r) .empty

end MetadataBag.Catalog
