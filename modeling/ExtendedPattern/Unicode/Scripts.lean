import ExtendedPattern.Unicode.DataTable

/-! Scripts with characters in the basic plane, as runs of code points and ranges. -/
namespace ExtendedPattern.Unicode

def scripts : DataTable := [
  ("Arabic", [
    "0600-06040606-060B060D-061A061E0620-063F0641-064A0656-065E066A-066F0671-06DC06DE-06FF",
    "0750-077F08A008A2-08AC08E4-08FEFB50-FBC1FBD3-FD3DFD50-FD8FFD92-FDC7FDF0-FDFCFE70-FE74",
    "FE76-FEFC"]),
  ("Armenian", ["0531-05560559-055F0561-0587058A058FFB13-FB17"]),
  ("Balinese", ["1B00-1B4B1B50-1B7C"]),
  ("Bamum", ["A6A0-A6F7"]),
  ("Batak", ["1BC0-1BF31BFC-1BFF"]),
  ("Bengali", [
    "0981-09830985-098C098F09900993-09A809AA-09B009B209B6-09B909BC-09C409C709C809CB-09CE09D7",
    "09DC09DD09DF-09E309E6-09FB"]),
  ("Bopomofo", ["02EA02EB3105-312D31A0-31BA"]),
  ("Braille", ["2800-28FF"]),
  ("Buginese", ["1A00-1A1B1A1E1A1F"]),
  ("Buhid", ["1740-1753"]),
  ("Canadian_Aboriginal", ["1400-167F18B0-18F5"]),
  ("Cham", ["AA00-AA36AA40-AA4DAA50-AA59AA5C-AA5F"]),
  ("Cherokee", ["13A0-13F4"]),
  ("Common", [
    "0000-0040005B-0060007B-00A900AB-00B900BB-00BF00D700F702B9-02DF02E5-02E902EC-02FF0374037E",
    "038503870589060C061B061F06400660-066906DD096409650E3F0FD5-0FD810FB16EB-16ED173517361802",
    "180318051CD31CE11CE9-1CEC1CEE-1CF31CF51CF62000-200B200E-2064206A-20702074-207E2080-208E",
    "20A0-20B92100-21252127-2129212C-21312133-214D214F-215F21892190-23F32400-24262440-244A",
    "2460-26FF2701-27FF2900-2B4C2B50-2B592E00-2E3B2FF0-2FFB3000-300430063008-30203030-3037",
    "303C-303F309B309C30A030FB30FC3190-319F31C0-31E33220-325F327F-32CF3358-33FF4DC0-4DFF",
    "A700-A721A788-A78AA830-A839FD3EFD3FFDFDFE10-FE19FE30-FE52FE54-FE66FE68-FE6BFEFFFF01-FF20",
    "FF3B-FF40FF5B-FF65FF70FF9EFF9FFFE0-FFE6FFE8-FFEEFFF9-FFFD"]),
  ("Coptic", ["03E2-03EF2C80-2CF32CF9-2CFF"]),
  ("Cyrillic", ["0400-04840487-05271D2B1D782DE0-2DFFA640-A697A69F"]),
  ("Devanagari", ["0900-09500953-09630966-09770979-097FA8E0-A8FB"]),
  ("Ethiopic", [
    "1200-1248124A-124D1250-12561258125A-125D1260-1288128A-128D1290-12B012B2-12B512B8-12BE12C0",
    "12C2-12C512C8-12D612D8-13101312-13151318-135A135D-137C1380-13992D80-2D962DA0-2DA62DA8-2DAE",
    "2DB0-2DB62DB8-2DBE2DC0-2DC62DC8-2DCE2DD0-2DD62DD8-2DDEAB01-AB06AB09-AB0EAB11-AB16AB20-AB26",
    "AB28-AB2E"]),
  ("Georgian", ["10A0-10C510C710CD10D0-10FA10FC-10FF2D00-2D252D272D2D"]),
  ("Glagolitic", ["2C00-2C2E2C30-2C5E"]),
  ("Greek", [
    "0370-03730375-0377037A-037D038403860388-038A038C038E-03A103A3-03E103F0-03FF1D26-1D2A",
    "1D5D-1D611D66-1D6A1DBF1F00-1F151F18-1F1D1F20-1F451F48-1F4D1F50-1F571F591F5B1F5D1F5F-1F7D",
    "1F80-1FB41FB6-1FC41FC6-1FD31FD6-1FDB1FDD-1FEF1FF2-1FF41FF6-1FFE2126"]),
  ("Gujarati", [
    "0A81-0A830A85-0A8D0A8F-0A910A93-0AA80AAA-0AB00AB20AB30AB5-0AB90ABC-0AC50AC7-0AC90ACB-0ACD",
    "0AD00AE0-0AE30AE6-0AF1"]),
  ("Gurmukhi", [
    "0A01-0A030A05-0A0A0A0F0A100A13-0A280A2A-0A300A320A330A350A360A380A390A3C0A3E-0A420A470A48",
    "0A4B-0A4D0A510A59-0A5C0A5E0A66-0A75"]),
  ("Han", [
    "2E80-2E992E9B-2EF32F00-2FD5300530073021-30293038-303B3400-4DB54E00-9FCCF900-FA6DFA70-FAD9"]),
  ("Hangul", [
    "1100-11FF302E302F3131-318E3200-321E3260-327EA960-A97CAC00-D7A3D7B0-D7C6D7CB-D7FBFFA0-FFBE",
    "FFC2-FFC7FFCA-FFCFFFD2-FFD7FFDA-FFDC"]),
  ("Hanunoo", ["1720-1734"]),
  ("Hebrew", ["0591-05C705D0-05EA05F0-05F4FB1D-FB36FB38-FB3CFB3EFB40FB41FB43FB44FB46-FB4F"]),
  ("Hiragana", ["3041-3096309D-309F"]),
  ("Inherited", [
    "0300-036F04850486064B-0655065F0670095109521CD0-1CD21CD4-1CE01CE2-1CE81CED1CF41DC0-1DE6",
    "1DFC-1DFF200C200D20D0-20F0302A-302D3099309AFE00-FE0FFE20-FE26"]),
  ("Javanese", ["A980-A9CDA9CF-A9D9A9DEA9DF"]),
  ("Kannada", [
    "0C820C830C85-0C8C0C8E-0C900C92-0CA80CAA-0CB30CB5-0CB90CBC-0CC40CC6-0CC80CCA-0CCD0CD50CD6",
    "0CDE0CE0-0CE30CE6-0CEF0CF10CF2"]),
  ("Katakana", ["30A1-30FA30FD-30FF31F0-31FF32D0-32FE3300-3357FF66-FF6FFF71-FF9D"]),
  ("Kayah_Li", ["A900-A92F"]),
  ("Khmer", ["1780-17DD17E0-17E917F0-17F919E0-19FF"]),
  ("Lao", [
    "0E810E820E840E870E880E8A0E8D0E94-0E970E99-0E9F0EA1-0EA30EA50EA70EAA0EAB0EAD-0EB90EBB-0EBD",
    "0EC0-0EC40EC60EC8-0ECD0ED0-0ED90EDC-0EDF"]),
  ("Latin", [
    "0041-005A0061-007A00AA00BA00C0-00D600D8-00F600F8-02B802E0-02E41D00-1D251D2C-1D5C1D62-1D65",
    "1D6B-1D771D79-1DBE1E00-1EFF2071207F2090-209C212A212B2132214E2160-21882C60-2C7FA722-A787",
    "A78B-A78EA790-A793A7A0-A7AAA7F8-A7FFFB00-FB06FF21-FF3AFF41-FF5A"]),
  ("Lepcha", ["1C00-1C371C3B-1C491C4D-1C4F"]),
  ("Limbu", ["1900-191C1920-192B1930-193B19401944-194F"]),
  ("Lisu", ["A4D0-A4FF"]),
  ("Malayalam", [
    "0D020D030D05-0D0C0D0E-0D100D12-0D3A0D3D-0D440D46-0D480D4A-0D4E0D570D60-0D630D66-0D75",
    "0D79-0D7F"]),
  ("Mandaic", ["0840-085B085E"]),
  ("Meetei_Mayek", ["AAE0-AAF6ABC0-ABEDABF0-ABF9"]),
  ("Mongolian", ["1800180118041806-180E1810-18191820-18771880-18AA"]),
  ("Myanmar", ["1000-109FAA60-AA7B"]),
  ("New_Tai_Lue", ["1980-19AB19B0-19C919D0-19DA19DE19DF"]),
  ("Nko", ["07C0-07FA"]),
  ("Ogham", ["1680-169C"]),
  ("Ol_Chiki", ["1C50-1C7F"]),
  ("Oriya", [
    "0B01-0B030B05-0B0C0B0F0B100B13-0B280B2A-0B300B320B330B35-0B390B3C-0B440B470B480B4B-0B4D",
    "0B560B570B5C0B5D0B5F-0B630B66-0B77"]),
  ("Phags_Pa", ["A840-A877"]),
  ("Rejang", ["A930-A953A95F"]),
  ("Runic", ["16A0-16EA16EE-16F0"]),
  ("Samaritan", ["0800-082D0830-083E"]),
  ("Saurashtra", ["A880-A8C4A8CE-A8D9"]),
  ("Sinhala", [
    "0D820D830D85-0D960D9A-0DB10DB3-0DBB0DBD0DC0-0DC60DCA0DCF-0DD40DD60DD8-0DDF0DF2-0DF4"]),
  ("Sundanese", ["1B80-1BBF1CC0-1CC7"]),
  ("Syloti_Nagri", ["A800-A82B"]),
  ("Syriac", ["0700-070D070F-074A074D-074F"]),
  ("Tagalog", ["1700-170C170E-1714"]),
  ("Tagbanwa", ["1760-176C176E-177017721773"]),
  ("Tai_Le", ["1950-196D1970-1974"]),
  ("Tai_Tham", ["1A20-1A5E1A60-1A7C1A7F-1A891A90-1A991AA0-1AAD"]),
  ("Tai_Viet", ["AA80-AAC2AADB-AADF"]),
  ("Tamil", [
    "0B820B830B85-0B8A0B8E-0B900B92-0B950B990B9A0B9C0B9E0B9F0BA30BA40BA8-0BAA0BAE-0BB90BBE-0BC2",
    "0BC6-0BC80BCA-0BCD0BD00BD70BE6-0BFA"]),
  ("Telugu", [
    "0C01-0C030C05-0C0C0C0E-0C100C12-0C280C2A-0C330C35-0C390C3D-0C440C46-0C480C4A-0C4D0C550C56",
    "0C580C590C60-0C630C66-0C6F0C78-0C7F"]),
  ("Thaana", ["0780-07B1"]),
  ("Thai", ["0E01-0E3A0E40-0E5B"]),
  ("Tibetan", ["0F00-0F470F49-0F6C0F71-0F970F99-0FBC0FBE-0FCC0FCE-0FD40FD90FDA"]),
  ("Tifinagh", ["2D30-2D672D6F2D702D7F"]),
  ("Vai", ["A500-A62B"]),
  ("Yi", ["A000-A48CA490-A4C6"])]

end ExtendedPattern.Unicode
