import Postal.Builtin.Build

namespace Postal.Builtin.Territories

def albania : Json :=
  .object
    [("fieldNames",
      texts
        [("country", "Country"), ("locality", "City"), ("postalCode", "Postal Code"),
         ("streetAddress", "Street Address")]),
     ("fields",
      .array
        [patternRule "postalCode" "startAtLast" "\\b[0-9]\x7b4\x7d\\b",
         patternRule "locality" "last" "[\\p\x7bL\x7d\\p\x7bM\x7d'.\\-]+$"]),
     ("formats",
      templates
        [("default", "<streetAddress>\n<postalCode>-<locality>\n<country>"),
         ("nocountry", "<streetAddress>\n<postalCode>-<locality>")]),
     ("startAt", .string "end")]

def austria : Json :=
  .object
    [("fieldNames",
      texts
        [("country", "Country"), ("locality", "City"), ("postalCode", "Postal Code"),
         ("streetAddress", "Street Address")]),
     ("fields",
      .array
        [patternRule "postalCode" "startAtLast" "\\b[0-9]\x7b4\x7d\\b",
         patternRule "locality" "last" "[^\\d,]+$"]),
     ("formats",
      templates
        [("default", "<streetAddress>\n<postalCode> <locality>\n<country>"),
         ("nocountry", "<streetAddress>\n<postalCode> <locality>")]),
     ("startAt", .string "end")]

def canada : Json :=
  .object
    [("fieldNames",
      texts
        [("country", "Country"), ("locality", "City"), ("postalCode", "Postal Code"),
         ("region", "Province"), ("streetAddress", "Street Address")]),
     ("fields",
      .array
        [patternRule "postalCode" "startAtLast" "\\b[A-Z][0-9][A-Z] ?[0-9][A-Z][0-9]$",
         patternRule "region" "last"
           ("\\b(?:Newfoundland and Labrador|Northwest Territories|Prince Edward Island|British " ++
            "Columbia|New Brunswick|Saskatchewan|Nova Scotia|Manitoba|Alberta|Nunavut|Ontario|" ++
            "Quebec|Québec|Yukon|AB|BC|MB|NB|NL|NS|NT|NU|ON|PE|QC|SK|YT)$"),
         patternRule "locality" "last" "[^\\d,]+$"]),
     ("formats",
      templates
        [("default", "<streetAddress>\n<locality> <region> <postalCode>\n<country>"),
         ("nocountry", "<streetAddress>\n<locality> <region> <postalCode>")]),
     ("startAt", .string "end")]

def china : Json :=
  .object
    [("fieldNames",
      texts
        [("country", "Country"), ("locality", "City"), ("postalCode", "Postal Code"),
         ("region", "Province"), ("streetAddress", "Street Address")]),
     ("fields",
      .object
        [("asian",
          .array
            [patternRule "postalCode" "startAtLast" "[0-9]\x7b6\x7d$",
             literalRule "region" "first"
               ["北京市", "上海市", "天津市", "重庆市", "河北省", "山西省", "辽宁省", "吉林省", "黑龙江省", "江苏省", "浙江省",
                "安徽省", "福建省", "江西省", "山东省", "河南省", "湖北省", "湖南省", "广东省", "海南省", "四川省", "贵州省",
                "云南省", "陕西省", "甘肃省", "青海省", "台湾省", "内蒙古自治区", "广西壮族自治区", "西藏自治区", "宁夏回族自治区",
                "新疆维吾尔自治区", "北京", "上海", "天津", "重庆", "河北", "山西", "辽宁", "吉林", "黑龙江", "江苏", "浙江",
                "安徽", "福建", "江西", "山东", "河南", "湖北", "湖南", "广东", "海南", "四川", "贵州", "云南", "陕西",
                "甘肃", "青海", "内蒙古", "广西", "西藏", "宁夏", "新疆"],
             patternRule "locality" "first" "^[^\\d]+?[市区县]"]),
         ("latin",
          .array
            [patternRule "postalCode" "startAtLast" "\\b[0-9]\x7b6\x7d\\b",
             literalRule "region" "last"
               ["Anhui", "Ānhuī", "Fujian", "Fújiàn", "Gansu", "Gānsù", "Guangdong",
                "Guǎngdōng", "Guangxi", "Guǎngxī", "Guizhou", "Guìzhōu", "Hainan", "Hǎinán",
                "Hebei", "Héběi", "Heilongjiang", "Hēilóngjiāng", "Henan", "Hénán", "Hubei",
                "Húběi", "Hunan", "Húnán", "Inner Mongolia", "Nei Mongol", "Jiangsu", "Jiāngsū",
                "Jiangxi", "Jiāngxī", "Jilin", "Jílín", "Liaoning", "Liáoníng", "Ningxia",
                "Níngxià", "Qinghai", "Qīnghǎi", "Shaanxi", "Shǎnxī", "Shandong", "Shāndōng",
                "Shanxi", "Shānxī", "Sichuan", "Sìchuān", "Tibet", "Xizang", "Xīzàng",
                "Xinjiang", "Xīnjiāng", "Yunnan", "Yúnnán", "Zhejiang", "Zhèjiāng", "Chongqing",
                "Tianjin"],
             patternRule "locality" "last" "[\\p\x7bL\x7d\\p\x7bM\x7d]+$"])]),
     ("formats",
      .object
        [("default",
          templates
            [("asian", "<country><region><locality><streetAddress>\n<postalCode>"),
             ("latin", "<streetAddress>, <locality>\n<postalCode> <region>\n<country>")]),
         ("nocountry",
          templates
            [("asian", "<region><locality><streetAddress>\n<postalCode>"),
             ("latin", "<streetAddress>, <locality>\n<postalCode> <region>")])]),
     ("multiformat", .bool true), ("startAt", texts [("asian", "start"), ("latin", "end")])]

def germany : Json :=
  .object
    [("fieldNames",
      texts
        [("country", "Country"), ("locality", "City"), ("postalCode", "Postal Code"),
         ("streetAddress", "Street Address")]),
     ("fields",
      .array
        [patternRule "postalCode" "startAtLast" "\\b[0-9]\x7b5\x7d\\b",
         patternRule "locality" "last" "[^\\d,]+$"]),
     ("formats",
      templates
        [("default", "<streetAddress>\n<postalCode> <locality>\n<country>"),
         ("nocountry", "<streetAddress>\n<postalCode> <locality>")]),
     ("startAt", .string "end")]

def france : Json :=
  .object
    [("fieldNames",
      texts
        [("country", "Country"), ("locality", "City"), ("postalCode", "Postal Code"),
         ("streetAddress", "Street Address")]),
     ("fields",
      .array
        [patternRule "postalCode" "startAtLast" "\\b[0-9]\x7b5\x7d\\b",
         patternRule "locality" "last" "[^\\d,]+$"]),
     ("formats",
      templates
        [("default", "<streetAddress>\n<postalCode> <locality>\n<country>"),
         ("nocountry", "<streetAddress>\n<postalCode> <locality>")]),
     ("startAt", .string "end")]

def unitedKingdom : Json :=
  .object
    [("fieldNames",
      texts
        [("country", "Country"), ("locality", "City"), ("postalCode", "Postal Code"),
         ("streetAddress", "Street Address")]),
     ("fields",
      .array
        [patternRule "postalCode" "startAtLast"
           ("\\b[A-Z]\x7b1,2\x7d[0-9][0-9A-Z]? ?[0-9][A-Z]\x7b2\x7d$"),
         patternRule "locality" "last" "[^\\d,]+$"]),
     ("formats",
      templates
        [("default", "<streetAddress>\n<locality>\n<postalCode>\n<country>"),
         ("nocountry", "<streetAddress>\n<locality>\n<postalCode>")]),
     ("startAt", .string "end")]

def hongKong : Json :=
  .object
    [("fieldNames",
      texts
        [("country", "Country"), ("locality", "City"), ("postalCode", "Postal Code"),
         ("region", "District"), ("streetAddress", "Street Address")]),
     ("fields",
      .object
        [("asian",
          .array
            [literalRule "region" "first"
               ["香港島", "新界", "九龍"],
             literalRule "locality" "first"
               ["中西區", "中環", "上環", "金鐘", "灣仔", "銅鑼灣", "跑馬地", "東區", "北角", "鰂魚涌", "太古城", "柴灣",
                "筲箕灣", "南區", "香港仔", "赤柱", "淺水灣", "油尖旺", "尖沙咀", "油麻地", "旺角", "深水埗", "九龍城", "九龍塘",
                "紅磡", "黃大仙", "觀塘", "荃灣", "屯門", "元朗", "大埔", "沙田", "西貢", "將軍澳", "葵青", "東涌", "離島"]]),
         ("latin",
          .array
            [literalRule "region" "last"
               ["Hong Kong Island", "New Territories", "Kowloon"],
             literalRule "locality" "last"
               ["Central and Western", "Central", "Sheung Wan", "Admiralty", "Wan Chai",
                "Causeway Bay", "Happy Valley", "Eastern", "North Point", "Quarry Bay",
                "Taikoo Shing", "Chai Wan", "Shau Kei Wan", "Southern", "Aberdeen", "Stanley",
                "Repulse Bay", "Yau Tsim Mong", "Tsim Sha Tsui", "Yau Ma Tei", "Mong Kok",
                "Sham Shui Po", "Kowloon City", "Kowloon Tong", "Hung Hom", "Wong Tai Sin",
                "Kwun Tong", "Tsuen Wan", "Tuen Mun", "Yuen Long", "Tai Po", "Dàpǔ Xīn Shìzhèn",
                "Sha Tin", "Sai Kung", "Tseung Kwan O", "Kwai Tsing", "Tung Chung", "Islands",
                "Hong Kong"]])]),
     ("formats",
      .object
        [("default",
          templates
            [("asian", "<country><region><locality><streetAddress>"),
             ("latin", "<streetAddress>\n<locality>\n<region>\n<country>")]),
         ("nocountry",
          templates
            [("asian", "<region><locality><streetAddress>"),
             ("latin", "<streetAddress>\n<locality>\n<region>")])]),
     ("multiformat", .bool true), ("startAt", texts [("asian", "start"), ("latin", "end")])]

def japan : Json :=
  .object
    [("fieldNames",
      texts
        [("country", "Country"), ("locality", "City"), ("postalCode", "Postal Code"),
         ("region", "Prefecture"), ("streetAddress", "Street Address")]),
     ("fields",
      .object
        [("asian",
          .array
            [patternRule "postalCode" "startAtFirst" "〒?[0-9]\x7b3\x7d-[0-9]\x7b4\x7d",
             literalRule "region" "first"
               ["北海道", "青森県", "岩手県", "宮城県", "秋田県", "山形県", "福島県", "茨城県", "栃木県", "群馬県", "埼玉県",
                "千葉県", "東京都", "神奈川県", "新潟県", "富山県", "石川県", "福井県", "山梨県", "長野県", "岐阜県", "静岡県",
                "愛知県", "三重県", "滋賀県", "京都府", "大阪府", "兵庫県", "奈良県", "和歌山県", "鳥取県", "島根県", "岡山県",
                "広島県", "山口県", "徳島県", "香川県", "愛媛県", "高知県", "福岡県", "佐賀県", "長崎県", "熊本県", "大分県",
                "宮崎県", "鹿児島県", "沖縄県"],
             patternRule "locality" "first" "^[^\\d]+?[市区町村]"]),
         ("latin",
          .array
            [patternRule "postalCode" "startAtLast" "\\b[0-9]\x7b3\x7d-[0-9]\x7b4\x7d\\b",
             patternRule "region" "last"
               ("\\b(?:Fukushima|Hiroshima|Kagoshima|Tokushima|Yamaguchi|Yamanashi|Hokkaido|" ++
                "Hokkaidō|Ishikawa|Kanagawa|Kumamoto|Miyazaki|Nagasaki|Shizuoka|Wakayama|" ++
                "Yamagata|Fukuoka|Ibaraki|Niigata|Okayama|Okinawa|Saitama|Shimane|Tochigi|" ++
                "Tottori|Aomori|Kagawa|Miyagi|Nagano|Toyama|Aichi|Akita|Chiba|Ehime|Fukui|Gunma|" ++
                "Hyogo|Hyōgo|Iwate|Kochi|Kyoto|Kyōto|Kōchi|Osaka|Shiga|Tokyo|Tōkyō|Ōsaka|Gifu|" ++
                "Nara|Oita|Saga|Ōita|Mie)(?:-(?:to|fu|ken))?$"),
             patternRule "locality" "last" "[\\p\x7bL\x7d\\p\x7bM\x7d'.\\-]+$"])]),
     ("formats",
      .object
        [("default",
          templates
            [("asian", "<postalCode>\n<region><locality><streetAddress>\n<country>"),
             ("latin", "<streetAddress>\n<locality>, <region> <postalCode>\n<country>")]),
         ("nocountry",
          templates
            [("asian", "<postalCode>\n<region><locality><streetAddress>"),
             ("latin", "<streetAddress>\n<locality>, <region> <postalCode>")])]),
     ("multiformat", .bool true), ("startAt", texts [("asian", "start"), ("latin", "end")])]

def netherlands : Json :=
  .object
    [("fieldNames",
      texts
        [("country", "Country"), ("locality", "City"), ("postalCode", "Postal Code"),
         ("streetAddress", "Street Address")]),
     ("fields",
      .array
        [patternRule "postalCode" "startAtLast" "\\b[0-9]\x7b4\x7d ?[A-Z]\x7b2\x7d\\b",
         patternRule "locality" "last" "[^\\d,]+$"]),
     ("formats",
      templates
        [("default", "<streetAddress>\n<postalCode> <locality>\n<country>"),
         ("nocountry", "<streetAddress>\n<postalCode> <locality>")]),
     ("startAt", .string "end")]

def unitedStates : Json :=
  .object
    [("fieldNames",
      texts
        [("country", "Country"), ("locality", "City"), ("postalCode", "Zip Code"),
         ("region", "State"), ("streetAddress", "Street Address")]),
     ("fields",
      .array
        [patternRule "postalCode" "startAtLast" "\\b[0-9]\x7b5\x7d(?:-[0-9]\x7b4\x7d)?$",
         patternRule "region" "last"
           ("\\b(?:District of Columbia|North Carolina|South Carolina|Massachusetts|New " ++
            "Hampshire|West Virginia|North Dakota|Pennsylvania|Rhode Island|South Dakota|" ++
            "Connecticut|Mississippi|Puerto Rico|California|New Jersey|New Mexico|Washington|" ++
            "Louisiana|Minnesota|Tennessee|Wisconsin|Arkansas|Colorado|Delaware|Illinois|" ++
            "Kentucky|Maryland|Michigan|Missouri|Nebraska|New York|Oklahoma|Virginia|Alabama|" ++
            "Arizona|Florida|Georgia|Indiana|Montana|Vermont|Wyoming|Alaska|Hawaii|Kansas|" ++
            "Nevada|Oregon|Idaho|Maine|Texas|Iowa|Ohio|Utah|AK|AL|AR|AZ|CA|CO|CT|DC|DE|FL|GA|HI|" ++
            "IA|ID|IL|IN|KS|KY|LA|MA|MD|ME|MI|MN|MO|MS|MT|NC|ND|NE|NH|NJ|NM|NV|NY|OH|OK|OR|PA|" ++
            "PR|RI|SC|SD|TN|TX|UT|VA|VT|WA|WI|WV|WY)$"),
         patternRule "locality" "last"
           ("[\\p\x7bL\x7d\\p\x7bM\x7d][\\p\x7bL\x7d\\p\x7bM\x7d\\s.'\\-]*$")]),
     ("formats",
      templates
        [("default", "<streetAddress>\n<locality> <region> <postalCode>\n<country>"),
         ("nocountry", "<streetAddress>\n<locality> <region> <postalCode>")]),
     ("startAt", .string "end")]

def southAfrica : Json :=
  .object
    [("fieldNames",
      texts
        [("country", "Country"), ("locality", "City"), ("postalCode", "Postal Code"),
         ("streetAddress", "Street Address")]),
     ("fields",
      .array
        [patternRule "postalCode" "startAtLast" "\\b[0-9]\x7b4\x7d\\b",
         patternRule "locality" "last" "[^\\d,]+$"]),
     ("formats",
      templates
        [("default", "<streetAddress>\n<locality>\n<postalCode>\n<country>"),
         ("nocountry", "<streetAddress>\n<locality>\n<postalCode>")]),
     ("startAt", .string "end")]

def byRegion : List (String × Json) :=
  [("AL", albania), ("AT", austria), ("CA", canada), ("CN", china), ("DE", germany),
   ("FR", france), ("GB", unitedKingdom), ("HK", hongKong), ("JP", japan), ("NL", netherlands),
   ("US", unitedStates), ("ZA", southAfrica)]

end Postal.Builtin.Territories
