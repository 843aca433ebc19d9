/-!
# The ISO 3166-1 countries

The two letters of each alpha-2 code with the name of the country, in alphabetical order of the
codes.
-/

namespace BankCodes.Country

/-- Code letters and names of all countries. -/
def table : List (Char × Char × String) :=
  [('A', 'D', "Andorra"),
   ('A', 'E', "United Arab Emirates"),
   ('A', 'F', "Afghanistan"),
   ('A', 'G', "Antigua and Barbuda"),
   ('A', 'I', "Anguilla"),
   ('A', 'L', "Albania"),
   ('A', 'M', "Armenia"),
   ('A', 'O', "Angola"),
   ('A', 'Q', "Antarctica"),
   ('A', 'R', "Argentina"),
   ('A', 'S', "American Samoa"),
   ('A', 'T', "Austria"),
   ('A', 'U', "Australia"),
   ('A', 'W', "Aruba"),
   ('A', 'X', "Aland Islands"),
   ('A', 'Z', "Azerbaijan"),
   ('B', 'A', "Bosnia and Herzegovina"),
   ('B', 'B', "Barbados"),
   ('B', 'D', "Bangladesh"),
   ('B', 'E', "Belgium"),
   ('B', 'F', "Burkina Faso"),
   ('B', 'G', "Bulgaria"),
   ('B', 'H', "Bahrain"),
   ('B', 'I', "Burundi"),
   ('B', 'J', "Benin"),
   ('B', 'L', "Saint Barthelemy"),
   ('B', 'M', "Bermuda"),
   ('B', 'N', "Brunei Darussalam"),
   ('B', 'O', "Bolivia"),
   ('B', 'Q', "Bonaire, Sint Eustatius and Saba"),
   ('B', 'R', "Brazil"),
   ('B', 'S', "Bahamas"),
   ('B', 'T', "Bhutan"),
   ('B', 'V', "Bouvet Island"),
   ('B', 'W', "Botswana"),
   ('B', 'Y', "Belarus"),
   ('B', 'Z', "Belize"),
   ('C', 'A', "Canada"),
   ('C', 'C', "Cocos (Keeling) Islands"),
   ('C', 'D', "Congo, the Democratic Republic of the"),
   ('C', 'F', "Central African Republic"),
   ('C', 'G', "Congo"),
   ('C', 'H', "Switzerland"),
   ('C', 'I', "Cote d'Ivoire"),
   ('C', 'K', "Cook Islands"),
   ('C', 'L', "Chile"),
   ('C', 'M', "Cameroon"),
   ('C', 'N', "China"),
   ('C', 'O', "Colombia"),
   ('C', 'R', "Costa Rica"),
   ('C', 'U', "Cuba"),
   ('C', 'V', "Cabo Verde"),
   ('C', 'W', "Curacao"),
   ('C', 'X', "Christmas Island"),
   ('C', 'Y', "Cyprus"),
   ('C', 'Z', "Czechia"),
   ('D', 'E', "Germany"),
   ('D', 'J', "Djibouti"),
   ('D', 'K', "Denmark"),
   ('D', 'M', "Dominica"),
   ('D', 'O', "Dominican Republic"),
   ('D', 'Z', "Algeria"),
   ('E', 'C', "Ecuador"),
   ('E', 'E', "Estonia"),
   ('E', 'G', "Egypt"),
   ('E', 'H', "Western Sahara"),
   ('E', 'R', "Eritrea"),
   ('E', 'S', "Spain"),
   ('E', 'T', "Ethiopia"),
   ('F', 'I', "Finland"),
   ('F', 'J', "Fiji"),
   ('F', 'K', "Falkland Islands (Malvinas)"),
   ('F', 'M', "Micronesia, Federated States of"),
   ('F', 'O', "Faroe Islands"),
   ('F', 'R', "France"),
   ('G', 'A', "Gabon"),
   ('G', 'B', "United Kingdom"),
   ('G', 'D', "Grenada"),
   ('G', 'E', "Georgia"),
   ('G', 'F', "French Guiana"),
   ('G', 'G', "Guernsey"),
   ('G', 'H', "Ghana"),
   ('G', 'I', "Gibraltar"),
   ('G', 'L', "Greenland"),
   ('G', 'M', "Gambia"),
   ('G', 'N', "Guinea"),
   ('G', 'P', "Guadeloupe"),
   ('G', 'Q', "Equatorial Guinea"),
   ('G', 'R', "Greece"),
   ('G', 'S', "South Georgia and the South Sandwich Islands"),
   ('G', 'T', "Guatemala"),
   ('G', 'U', "Guam"),
   ('G', 'W', "Guinea-Bissau"),
   ('G', 'Y', "Guyana"),
   ('H', 'K', "Hong Kong"),
   ('H', 'M', "Heard Island and McDonald Islands"),
   ('H', 'N', "Honduras"),
   ('H', 'R', "Croatia"),
   ('H', 'T', "Haiti"),
   ('H', 'U', "Hungary"),
   ('I', 'D', "Indonesia"),
   ('I', 'E', "Ireland"),
   ('I', 'L', "Israel"),
   ('I', 'M', "Isle of Man"),
   ('I', 'N', "India"),
   ('I', 'O', "British Indian Ocean Territory"),
   ('I', 'Q', "Iraq"),
   ('I', 'R', "Iran, Islamic Republic of"),
   ('I', 'S', "Iceland"),
   ('I', 'T', "Italy"),
   ('J', 'E', "Jersey"),
   ('J', 'M', "Jamaica"),
   ('J', 'O', "Jordan"),
   ('J', 'P', "Japan"),
   ('K', 'E', "Kenya"),
   ('K', 'G', "Kyrgyzstan"),
   ('K', 'H', "Cambodia"),
   ('K', 'I', "Kiribati"),
   ('K', 'M', "Comoros"),
   ('K', 'N', "Saint Kitts and Nevis"),
   ('K', 'P', "Korea, Democratic People's Republic of"),
   ('K', 'R', "Korea, Republic of"),
   ('K', 'W', "Kuwait"),
   ('K', 'Y', "Cayman Islands"),
   ('K', 'Z', "Kazakhstan"),
   ('L', 'A', "Lao People's Democratic Republic"),
   ('L', 'B', "Lebanon"),
   ('L', 'C', "Saint Lucia"),
   ('L', 'I', "Liechtenstein"),
   ('L', 'K', "Sri Lanka"),
   ('L', 'R', "Liberia"),
   ('L', 'S', "Lesotho"),
   ('L', 'T', "Lithuania"),
   ('L', 'U', "Luxembourg"),
   ('L', 'V', "Latvia"),
   ('L', 'Y', "Libya"),
   ('M', 'A', "Morocco"),
   ('M', 'C', "Monaco"),
   ('M', 'D', "Moldova, Republic of"),
   ('M', 'E', "Montenegro"),
   ('M', 'F', "Saint Martin (French part)"),
   ('M', 'G', "Madagascar"),
   ('M', 'H', "Marshall Islands"),
   ('M', 'K', "North Macedonia"),
   ('M', 'L', "Mali"),
   ('M', 'M', "Myanmar"),
   ('M', 'N', "Mongolia"),
   ('M', 'O', "Macao"),
   ('M', 'P', "Northern Mariana Islands"),
   ('M', 'Q', "Martinique"),
   ('M', 'R', "Mauritania"),
   ('M', 'S', "Montserrat"),
   ('M', 'T', "Malta"),
   ('M', 'U', "Mauritius"),
   ('M', 'V', "Maldives"),
   ('M', 'W', "Malawi"),
   ('M', 'X', "Mexico"),
   ('M', 'Y', "Malaysia"),
   ('M', 'Z', "Mozambique"),
   ('N', 'A', "Namibia"),
   ('N', 'C', "New Caledonia"),
   ('N', 'E', "Niger"),
   ('N', 'F', "Norfolk Island"),
   ('N', 'G', "Nigeria"),
   ('N', 'I', "Nicaragua"),
   ('N', 'L', "Netherlands"),
   ('N', 'O', "Norway"),
   ('N', 'P', "Nepal"),
   ('N', 'R', "Nauru"),
   ('N', 'U', "Niue"),
   ('N', 'Z', "New Zealand"),
   ('O', 'M', "Oman"),
   ('P', 'A', "Panama"),
   ('P', 'E', "Peru"),
   ('P', 'F', "French Polynesia"),
   ('P', 'G', "Papua New Guinea"),
   ('P', 'H', "Philippines"),
   ('P', 'K', "Pakistan"),
   ('P', 'L', "Poland"),
   ('P', 'M', "Saint Pierre and Miquelon"),
   ('P', 'N', "Pitcairn"),
   ('P', 'R', "Puerto Rico"),
   ('P', 'S', "Palestine, State of"),
   ('P', 'T', "Portugal"),
   ('P', 'W', "Palau"),
   ('P', 'Y', "Paraguay"),
   ('Q', 'A', "Qatar"),
   ('R', 'E', "Reunion"),
   ('R', 'O', "Romania"),
   ('R', 'S', "Serbia"),
   ('R', 'U', "Russian Federation"),
   ('R', 'W', "Rwanda"),
   ('S', 'A', "Saudi Arabia"),
   ('S', 'B', "Solomon Islands"),
   ('S', 'C', "Seychelles"),
   ('S', 'D', "Sudan"),
   ('S', 'E', "Sweden"),
   ('S', 'G', "Singapore"),
   ('S', 'H', "Saint Helena, Ascension and Tristan da Cunha"),
   ('S', 'I', "Slovenia"),
   ('S', 'J', "Svalbard and Jan Mayen"),
   ('S', 'K', "Slovakia"),
   ('S', 'L', "Sierra Leone"),
   ('S', 'M', "San Marino"),
   ('S', 'N', "Senegal"),
   ('S', 'O', "Somalia"),
   ('S', 'R', "Suriname"),
   ('S', 'S', "South Sudan"),
   ('S', 'T', "Sao Tome and Principe"),
   ('S', 'V', "El Salvador"),
   ('S', 'X', "Sint Maarten (Dutch part)"),
   ('S', 'Y', "Syrian Arab Republic"),
   ('S', 'Z', "Eswatini"),
   ('T', 'C', "Turks and Caicos Islands"),
   ('T', 'D', "Chad"),
   ('T', 'F', "French Southern Territories"),
   ('T', 'G', "Togo"),
   ('T', 'H', "Thailand"),
   ('T', 'J', "Tajikistan"),
   ('T', 'K', "Tokelau"),
   ('T', 'L', "Timor-Leste"),
   ('T', 'M', "Turkmenistan"),
   ('T', 'N', "Tunisia"),
   ('T', 'O', "Tonga"),
   ('T', 'R', "Turkey"),
   ('T', 'T', "Trinidad and Tobago"),
   ('T', 'V', "Tuvalu"),
   ('T', 'W', "Taiwan"),
   ('T', 'Z', "Tanzania, United Republic of"),
   ('U', 'A', "Ukraine"),
   ('U', 'G', "Uganda"),
   ('U', 'M', "United States Minor Outlying Islands"),
   ('U', 'S', "United States of America"),
   ('U', 'Y', "Uruguay"),
   ('U', 'Z', "Uzbekistan"),
   ('V', 'A', "Holy See"),
   ('V', 'C', "Saint Vincent and the Grenadines"),
   ('V', 'E', "Venezuela"),
   ('V', 'G', "Virgin Islands (British)"),
   ('V', 'I', "Virgin Islands (U.S.)"),
   ('V', 'N', "Viet Nam"),
   ('V', 'U', "Vanuatu"),
   ('W', 'F', "Wallis and Futuna"),
   ('W', 'S', "Samoa"),
   ('Y', 'E', "Yemen"),
   ('Y', 'T', "Mayotte"),
   ('Z', 'A', "South Africa"),
   ('Z', 'M', "Zambia"),
   ('Z', 'W', "Zimbabwe")]

end BankCodes.Country
