/-!
# Local time types

The file of the types for dates and times without a zone, the same in every service.
-/
namespace ApiScaffold.Go

def timeTypesLines : List String := [
  "// Code generated by servicegen; DO NOT EDIT.",
  "package dto",
  "",
  "import (",
  "\t\"encoding/xml\"",
  "\t\"errors\"",
  "\t\"strconv\"",
  "\t\"time\"",
  ")",
  "",
  "const (",
  "\ttimeOnly            = \"15:04:05\"",
  "\tdateOnly            = \"2006-01-02\"",
  "\tdateTimeWithoutZone = \"2006-01-02T15:04:05\"",
  ")",
  "",
  "// LocalTime is a wall-clock time without date or zone",
  "type LocalTime struct \x7b",
  "\ttime.Time",
  "\x7d",
  "",
  "// LocalDate is a calendar date without time or zone",
  "type LocalDate struct \x7b",
  "\ttime.Time",
  "\x7d",
  "",
  "// LocalDateTime is a date and time without zone",
  "type LocalDateTime struct \x7b",
  "\ttime.Time",
  "\x7d",
  "",
  "func parseJSON(b []byte, layout string) (time.Time, error) \x7b",
  "\ts, err := strconv.Unquote(string(b))",
  "\tif err != nil \x7b",
  "\t\treturn time.Time\x7b\x7d, errors.New(\"unable to unmarshal JSON\")",
  "\t\x7d",
  "\tt, err := time.Parse(layout, s)",
  "\tif err != nil \x7b",
  "\t\treturn time.Time\x7b\x7d, errors.New(\"unable to unmarshal JSON\")",
  "\t\x7d",
  "\treturn t, nil",
  "\x7d",
  "",
  "func parseXML(decoder *xml.Decoder, start xml.StartElement, layout string) (time.Time, error) \x7b",
  "\tvar value string",
  "\tif err := decoder.DecodeElement(&value, &start); err != nil \x7b",
  "\t\treturn time.Time\x7b\x7d, errors.New(\"unable to decode XML\")",
  "\t\x7d",
  "\tt, err := time.Parse(layout, value)",
  "\tif err != nil \x7b",
  "\t\treturn time.Time\x7b\x7d, errors.New(\"unable to unmarshal XML\")",
  "\t\x7d",
  "\treturn t, nil",
  "\x7d",
  "",
  "func (lt *LocalTime) UnmarshalJSON(b []byte) (err error) \x7b",
  "\tlt.Time, err = parseJSON(b, timeOnly)",
  "\treturn err",
  "\x7d",
  "",
  "func (lt *LocalTime) UnmarshalXML(decoder *xml.Decoder, start xml.StartElement) (err error) \x7b",
  "\tlt.Time, err = parseXML(decoder, start, timeOnly)",
  "\treturn err",
  "\x7d",
  "",
  "func (lt LocalTime) MarshalJSON() ([]byte, error) \x7b",
  "\treturn []byte(strconv.Quote(lt.Format(timeOnly))), nil",
  "\x7d",
  "",
  "func (lt LocalTime) MarshalXML(encoder *xml.Encoder, start xml.StartElement) error \x7b",
  "\treturn encoder.EncodeElement(lt.Format(timeOnly), start)",
  "\x7d",
  "",
  "func (ld *LocalDate) UnmarshalJSON(b []byte) (err error) \x7b",
  "\tld.Time, err = parseJSON(b, dateOnly)",
  "\treturn err",
  "\x7d",
  "",
  "func (ld *LocalDate) UnmarshalXML(decoder *xml.Decoder, start xml.StartElement) (err error) \x7b",
  "\tld.Time, err = parseXML(decoder, start, dateOnly)",
  "\treturn err",
  "\x7d",
  "",
  "func (ld LocalDate) MarshalJSON() ([]byte, error) \x7b",
  "\treturn []byte(strconv.Quote(ld.Format(dateOnly))), nil",
  "\x7d",
  "",
  "func (ld LocalDate) MarshalXML(encoder *xml.Encoder, start xml.StartElement) error \x7b",
  "\treturn encoder.EncodeElement(ld.Format(dateOnly), start)",
  "\x7d",
  "",
  "func (ldt *LocalDateTime) UnmarshalJSON(b []byte) (err error) \x7b",
  "\tldt.Time, err = parseJSON(b, dateTimeWithoutZone)",
  "\treturn err",
  "\x7d",
  "",
  "func (ldt *LocalDateTime) UnmarshalXML(decoder *xml.Decoder, start xml.StartElement) (err error) \x7b",
  "\tldt.Time, err = parseXML(decoder, start, dateTimeWithoutZone)",
  "\treturn err",
  "\x7d",
  "",
  "func (ldt LocalDateTime) MarshalJSON() ([]byte, error) \x7b",
  "\treturn []byte(strconv.Quote(ldt.Format(dateTimeWithoutZone))), nil",
  "\x7d",
  "",
  "func (ldt LocalDateTime) MarshalXML(encoder *xml.Encoder, start xml.StartElement) error \x7b",
  "\treturn encoder.EncodeElement(ldt.Format(dateTimeWithoutZone), start)",
  "\x7d"]

def timeTypes : String := String.join (timeTypesLines.map (· ++ "\n"))

end ApiScaffold.Go
