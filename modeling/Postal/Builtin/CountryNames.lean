import Postal.Builtin.Build

namespace Postal.Builtin.CountryNames

def germanNames : List (String × String) :=
  [("Albanien", "AL"), ("Antarktis", "AQ"), ("Australien", "AU"), ("Belgien", "BE"),
   ("Brasilien", "BR"), ("China", "CN"), ("Deutschland", "DE"), ("Dänemark", "DK"),
   ("Europa", "150"), ("Europäische Union", "EU"), ("Eurozone", "EZ"), ("Finnland", "FI"),
   ("Frankreich", "FR"), ("Griechenland", "GR"), ("Großbritannien", "GB"), ("Hongkong", "HK"),
   ("Indien", "IN"), ("Irland", "IE"), ("Italien", "IT"), ("Japan", "JP"), ("Kanada", "CA"),
   ("Liechtenstein", "LI"), ("Luxemburg", "LU"), ("Mexiko", "MX"), ("Neuseeland", "NZ"),
   ("Niederlande", "NL"), ("Norwegen", "NO"), ("Polen", "PL"), ("Portugal", "PT"),
   ("Russland", "RU"), ("Schweden", "SE"), ("Schweiz", "CH"),
   ("Sonderverwaltungsregion Hongkong", "HK"), ("Spanien", "ES"), ("Südafrika", "ZA"),
   ("Südkorea", "KR"), ("Tschechien", "CZ"), ("Türkei", "TR"), ("USA", "US"),
   ("Unbekannte Region", "ZZ"), ("Ungarn", "HU"), ("Vereinigte Staaten", "US"),
   ("Vereinigte Staaten von Amerika", "US"), ("Vereinigtes Königreich", "GB"),
   ("Vereinte Nationen", "UN"), ("Volksrepublik China", "CN"), ("Welt", "001"),
   ("Österreich", "AT")]

def englishNames : List (String × String) :=
  [("Afghanistan", "AF"), ("Africa", "002"), ("Albania", "AL"), ("Algeria", "DZ"),
   ("American Samoa", "AS"), ("Americas", "019"), ("Andorra", "AD"), ("Angola", "AO"),
   ("Anguilla", "AI"), ("Antarctica", "AQ"), ("Antigua & Barbuda", "AG"), ("Argentina", "AR"),
   ("Armenia", "AM"), ("Aruba", "AW"), ("Asia", "142"), ("Australia", "AU"), ("Austria", "AT"),
   ("Azerbaijan", "AZ"), ("Bahamas", "BS"), ("Bahrain", "BH"), ("Bangladesh", "BD"),
   ("Barbados", "BB"), ("Belarus", "BY"), ("Belgium", "BE"), ("Belize", "BZ"), ("Benin", "BJ"),
   ("Bermuda", "BM"), ("Bhutan", "BT"), ("Bolivia", "BO"), ("Bosnia & Herzegovina", "BA"),
   ("Botswana", "BW"), ("Bouvet Island", "BV"), ("Brazil", "BR"),
   ("British Indian Ocean Territory", "IO"), ("British Virgin Islands", "VG"), ("Brunei", "BN"),
   ("Bulgaria", "BG"), ("Burkina Faso", "BF"), ("Burundi", "BI"), ("Cambodia", "KH"),
   ("Cameroon", "CM"), ("Canada", "CA"), ("Cape Verde", "CV"), ("Caribbean Netherlands", "BQ"),
   ("Cayman Islands", "KY"), ("Central African Republic", "CF"), ("Chad", "TD"),
   ("Chile", "CL"), ("China", "CN"), ("Christmas Island", "CX"),
   ("Cocos (Keeling) Islands", "CC"), ("Colombia", "CO"), ("Comoros", "KM"),
   ("Congo - Brazzaville", "CG"), ("Congo - Kinshasa", "CD"), ("Cook Islands", "CK"),
   ("Costa Rica", "CR"), ("Croatia", "HR"), ("Cuba", "CU"), ("Curaçao", "CW"), ("Cyprus", "CY"),
   ("Czech Republic", "CZ"), ("Czechia", "CZ"), ("Côte d’Ivoire", "CI"), ("Denmark", "DK"),
   ("Djibouti", "DJ"), ("Dominica", "DM"), ("Dominican Republic", "DO"), ("Ecuador", "EC"),
   ("Egypt", "EG"), ("El Salvador", "SV"), ("Equatorial Guinea", "GQ"), ("Eritrea", "ER"),
   ("Estonia", "EE"), ("Eswatini", "SZ"), ("Ethiopia", "ET"), ("Europe", "150"),
   ("European Union", "EU"), ("Eurozone", "EZ"), ("Falkland Islands", "FK"),
   ("Faroe Islands", "FO"), ("Fiji", "FJ"), ("Finland", "FI"), ("France", "FR"),
   ("French Guiana", "GF"), ("French Polynesia", "PF"), ("French Southern Territories", "TF"),
   ("Gabon", "GA"), ("Gambia", "GM"), ("Georgia", "GE"), ("Germany", "DE"), ("Ghana", "GH"),
   ("Gibraltar", "GI"), ("Great Britain", "GB"), ("Greece", "GR"), ("Greenland", "GL"),
   ("Grenada", "GD"), ("Guadeloupe", "GP"), ("Guam", "GU"), ("Guatemala", "GT"),
   ("Guernsey", "GG"), ("Guinea", "GN"), ("Guinea-Bissau", "GW"), ("Guyana", "GY"),
   ("Haiti", "HT"), ("Heard & McDonald Islands", "HM"), ("Holland", "NL"), ("Honduras", "HN"),
   ("Hong Kong", "HK"), ("Hong Kong SAR China", "HK"), ("Hungary", "HU"), ("Iceland", "IS"),
   ("India", "IN"), ("Indonesia", "ID"), ("Iran", "IR"), ("Iraq", "IQ"), ("Ireland", "IE"),
   ("Isle of Man", "IM"), ("Israel", "IL"), ("Italy", "IT"), ("Ivory Coast", "CI"),
   ("Jamaica", "JM"), ("Japan", "JP"), ("Jersey", "JE"), ("Jordan", "JO"), ("Kazakhstan", "KZ"),
   ("Kenya", "KE"), ("Kiribati", "KI"), ("Kuwait", "KW"), ("Kyrgyzstan", "KG"), ("Laos", "LA"),
   ("Latvia", "LV"), ("Lebanon", "LB"), ("Lesotho", "LS"), ("Liberia", "LR"), ("Libya", "LY"),
   ("Liechtenstein", "LI"), ("Lithuania", "LT"), ("Luxembourg", "LU"), ("Macao", "MO"),
   ("Macao SAR China", "MO"), ("Madagascar", "MG"), ("Malawi", "MW"), ("Malaysia", "MY"),
   ("Maldives", "MV"), ("Mali", "ML"), ("Malta", "MT"), ("Marshall Islands", "MH"),
   ("Martinique", "MQ"), ("Mauritania", "MR"), ("Mauritius", "MU"), ("Mayotte", "YT"),
   ("Mexico", "MX"), ("Micronesia", "FM"), ("Moldova", "MD"), ("Monaco", "MC"),
   ("Mongolia", "MN"), ("Montenegro", "ME"), ("Montserrat", "MS"), ("Morocco", "MA"),
   ("Mozambique", "MZ"), ("Myanmar", "MM"), ("Namibia", "NA"), ("Nauru", "NR"), ("Nepal", "NP"),
   ("Netherlands", "NL"), ("New Caledonia", "NC"), ("New Zealand", "NZ"), ("Nicaragua", "NI"),
   ("Niger", "NE"), ("Nigeria", "NG"), ("Niue", "NU"), ("Norfolk Island", "NF"),
   ("North Korea", "KP"), ("North Macedonia", "MK"), ("Northern Mariana Islands", "MP"),
   ("Norway", "NO"), ("Oceania", "009"), ("Oman", "OM"), ("PRC", "CN"), ("Pakistan", "PK"),
   ("Palau", "PW"), ("Palestinian Territories", "PS"), ("Panama", "PA"),
   ("Papua New Guinea", "PG"), ("Paraguay", "PY"), ("People's Republic of China", "CN"),
   ("Peru", "PE"), ("Philippines", "PH"), ("Pitcairn Islands", "PN"), ("Poland", "PL"),
   ("Portugal", "PT"), ("Puerto Rico", "PR"), ("Qatar", "QA"), ("Republic of Korea", "KR"),
   ("Romania", "RO"), ("Russia", "RU"), ("Rwanda", "RW"), ("Réunion", "RE"), ("Samoa", "WS"),
   ("San Marino", "SM"), ("Saudi Arabia", "SA"), ("Senegal", "SN"), ("Serbia", "RS"),
   ("Seychelles", "SC"), ("Sierra Leone", "SL"), ("Singapore", "SG"), ("Sint Maarten", "SX"),
   ("Slovakia", "SK"), ("Slovenia", "SI"), ("Solomon Islands", "SB"), ("Somalia", "SO"),
   ("South Africa", "ZA"), ("South Georgia & South Sandwich Islands", "GS"),
   ("South Korea", "KR"), ("South Sudan", "SS"), ("Spain", "ES"), ("Sri Lanka", "LK"),
   ("St. Barthélemy", "BL"), ("St. Helena", "SH"), ("St. Kitts & Nevis", "KN"),
   ("St. Lucia", "LC"), ("St. Martin", "MF"), ("St. Pierre & Miquelon", "PM"),
   ("St. Vincent & Grenadines", "VC"), ("Sudan", "SD"), ("Suriname", "SR"),
   ("Svalbard & Jan Mayen", "SJ"), ("Sweden", "SE"), ("Switzerland", "CH"), ("Syria", "SY"),
   ("São Tomé & Príncipe", "ST"), ("Taiwan", "TW"), ("Tajikistan", "TJ"), ("Tanzania", "TZ"),
   ("Thailand", "TH"), ("The Netherlands", "NL"), ("Timor-Leste", "TL"), ("Togo", "TG"),
   ("Tokelau", "TK"), ("Tonga", "TO"), ("Trinidad & Tobago", "TT"), ("Tunisia", "TN"),
   ("Turkey", "TR"), ("Turkmenistan", "TM"), ("Turks & Caicos Islands", "TC"), ("Tuvalu", "TV"),
   ("U.S. Outlying Islands", "UM"), ("U.S. Virgin Islands", "VI"), ("U.S.A.", "US"),
   ("UK", "GB"), ("USA", "US"), ("Uganda", "UG"), ("Ukraine", "UA"),
   ("United Arab Emirates", "AE"), ("United Kingdom", "GB"), ("United Nations", "UN"),
   ("United States", "US"), ("United States of America", "US"), ("Unknown Region", "ZZ"),
   ("Uruguay", "UY"), ("Uzbekistan", "UZ"), ("Vanuatu", "VU"), ("Vatican City", "VA"),
   ("Venezuela", "VE"), ("Vietnam", "VN"), ("Wallis & Futuna", "WF"), ("Western Sahara", "EH"),
   ("World", "001"), ("Yemen", "YE"), ("Zambia", "ZM"), ("Zimbabwe", "ZW"),
   ("Åland Islands", "AX")]

def frenchNames : List (String × String) :=
  [("Afrique du Sud", "ZA"), ("Albanie", "AL"), ("Allemagne", "DE"), ("Autriche", "AT"),
   ("Belgique", "BE"), ("Canada", "CA"), ("Chine", "CN"), ("Espagne", "ES"), ("Europe", "150"),
   ("France", "FR"), ("Hong Kong", "HK"), ("Irlande", "IE"), ("Italie", "IT"), ("Japon", "JP"),
   ("Luxembourg", "LU"), ("Maroc", "MA"), ("Monaco", "MC"), ("Monde", "001"),
   ("Pays-Bas", "NL"), ("R.A.S. chinoise de Hong Kong", "HK"), ("Royaume-Uni", "GB"),
   ("Suisse", "CH"), ("Sénégal", "SN"), ("Union européenne", "EU"), ("États-Unis", "US")]

def japaneseNames : List (String × String) :=
  [("アメリカ", "US"), ("アメリカ合衆国", "US"), ("アルバニア", "AL"), ("イギリス", "GB"), ("オランダ", "NL"),
   ("オーストリア", "AT"), ("カナダ", "CA"), ("ドイツ", "DE"), ("フランス", "FR"), ("ヨーロッパ", "150"),
   ("世界", "001"), ("中国", "CN"), ("中華人民共和国香港特別行政区", "HK"), ("南アフリカ", "ZA"), ("台湾", "TW"),
   ("日本", "JP"), ("欧州連合", "EU"), ("韓国", "KR"), ("香港", "HK")]

def albanianNames : List (String × String) :=
  [("Austri", "AT"), ("Bashkimi Evropian", "EU"), ("Bota", "001"), ("Evropë", "150"),
   ("Francë", "FR"), ("Gjermani", "DE"), ("Greqi", "GR"), ("Holandë", "NL"), ("Itali", "IT"),
   ("Japoni", "JP"), ("Kanada", "CA"), ("Kinë", "CN"), ("Kosovë", "XK"), ("Mal i Zi", "ME"),
   ("Maqedonia e Veriut", "MK"), ("Mbretëria e Bashkuar", "GB"), ("SHBA", "US"),
   ("Shqipëri", "AL"), ("Shqipëria", "AL"), ("Shtetet e Bashkuara të Amerikës", "US")]

def chineseNames : List (String × String) :=
  [("世界", "001"), ("中华人民共和国", "CN"), ("中国", "CN"), ("中国香港特别行政区", "HK"), ("中國", "CN"),
   ("中國香港特別行政區", "HK"), ("加拿大", "CA"), ("南非", "ZA"), ("台湾", "TW"), ("奥地利", "AT"), ("德国", "DE"),
   ("日本", "JP"), ("欧洲", "150"), ("欧盟", "EU"), ("法国", "FR"), ("澳门", "MO"), ("美国", "US"),
   ("美國", "US"), ("英国", "GB"), ("荷兰", "NL"), ("阿尔巴尼亚", "AL"), ("韩国", "KR"), ("香港", "HK")]

def nativeNames : List (String × String) :=
  [("Australia", "AU"), ("Belgique", "BE"), ("België", "BE"), ("Brasil", "BR"),
   ("Canada", "CA"), ("Danmark", "DK"), ("Deutschland", "DE"), ("Eesti", "EE"),
   ("España", "ES"), ("France", "FR"), ("Hrvatska", "HR"), ("Italia", "IT"), ("Latvija", "LV"),
   ("Liechtenstein", "LI"), ("Lietuva", "LT"), ("Luxembourg", "LU"), ("Magyarország", "HU"),
   ("Monaco", "MC"), ("México", "MX"), ("Nederland", "NL"), ("Norge", "NO"), ("Polska", "PL"),
   ("Portugal", "PT"), ("România", "RO"), ("Schweiz", "CH"), ("Shqipëri", "AL"),
   ("Shqipëria", "AL"), ("Slovenija", "SI"), ("Slovensko", "SK"), ("South Africa", "ZA"),
   ("Suisse", "CH"), ("Suomi", "FI"), ("Sverige", "SE"), ("Svizzera", "CH"), ("Türkiye", "TR"),
   ("United Kingdom", "GB"), ("United States", "US"), ("Éire", "IE"), ("Ísland", "IS"),
   ("Österreich", "AT"), ("Česko", "CZ"), ("Ελλάδα", "GR"), ("България", "BG"),
   ("Россия", "RU"), ("Србија", "RS"), ("Україна", "UA"), ("中国", "CN"), ("中國", "CN"),
   ("台灣", "TW"), ("日本", "JP"), ("香港", "HK"), ("대한민국", "KR")]

def byLanguage : List (String × Json) :=
  [("de", withMark false germanNames), ("en", withMark false englishNames),
   ("fr", withMark false frenchNames), ("ja", withMark false japaneseNames),
   ("sq", withMark false albanianNames), ("zh", withMark false chineseNames)]

end Postal.Builtin.CountryNames
